import Issuance.Text.CodePoint

/-!
# Issuance.Service.Counters

**Counters** of what the issuer has done, and the page that shows them.
-/

namespace Issuance

/-- What is counted. -/
inductive Counter
  | sessionCreated
  | sessionFailed
  | authorizationSent
  | authorizationFailed
  | noAuthorizationCode
  | accessTokenIssued
  | accessTokenFailed
  | tokenVerificationFailed
  | codeReplayed
  | keysUnavailable
  deriving DecidableEq

namespace Counter

/-- All counters, in the order in which they are shown. -/
def all : List Counter :=
  [sessionCreated, sessionFailed, authorizationSent, authorizationFailed, noAuthorizationCode,
    accessTokenIssued, accessTokenFailed, tokenVerificationFailed, codeReplayed, keysUnavailable]

/-- The name of a counter. -/
def name : Counter → Text
  | sessionCreated => "session_created"
  | sessionFailed => "session_failed"
  | authorizationSent => "authorization_sent"
  | authorizationFailed => "authorization_failed"
  | noAuthorizationCode => "no_authorization_code"
  | accessTokenIssued => "access_token_issued"
  | accessTokenFailed => "access_token_failed"
  | tokenVerificationFailed => "jwt_verification_failed"
  | codeReplayed => "authorization_code_replayed"
  | keysUnavailable => "key_aliases_unavailable"

/-- What a counter counts, in words. -/
def description : Counter → Text
  | sessionCreated => "Sessions created"
  | sessionFailed => "Session requests rejected"
  | authorizationSent => "Authorization codes returned"
  | authorizationFailed => "Authorization requests rejected"
  | noAuthorizationCode => "Authorization requested before a code was issued"
  | accessTokenIssued => "Access tokens issued"
  | accessTokenFailed => "Token requests rejected"
  | tokenVerificationFailed => "Client assertion signature/claims verification failures"
  | codeReplayed => "Authorization code redeemed more than once"
  | keysUnavailable => "Requests for which every decryption key candidate failed"

end Counter

/-- How often each thing has happened. -/
structure Counters where
  count : Counter → Nat

namespace Counters

/-- Nothing has happened yet. -/
def zero : Counters := ⟨fun _ => 0⟩

/-- One thing has happened once more. -/
def bump (c : Counter) (k : Counters) : Counters :=
  ⟨fun d => if d = c then k.count d + 1 else k.count d⟩

/-- One thing has happened once more, if a condition holds. -/
def bumpIf (condition : Bool) (c : Counter) (k : Counters) : Counters :=
  if condition then k.bump c else k

theorem count_bump (c d : Counter) (k : Counters) :
    (k.bump c).count d = k.count d + if d = c then 1 else 0 := by
  simp only [bump]
  split <;> rfl

/-- The page that shows every counter with its description and type. -/
def page (k : Counters) : Text :=
  Counter.all.flatMap fun c =>
    "# HELP " ++ c.name ++ "_total " ++ c.description ++ "\n" ++
    "# TYPE " ++ c.name ++ "_total counter\n" ++
    c.name ++ "_total " ++ Text.ofNat (k.count c) ++ ".0\n"

end Counters

end Issuance
