import Issuance.Session.Basic

/-!
# Issuance.Session.Store

The **store** holds the sessions by id and an index from authorization codes to session ids.
Callers hold copies, which may be stale when they are put back. Two rules keep a stale copy from
doing harm: a code that a session gives up leaves the index, and **a bound token is never unbound
or replaced** by putting a session back. A token is bound only by `bindToken?`, and only where
none is bound yet.
-/

namespace Issuance

namespace Session

/-- The stored sessions. -/
structure Store where
  sessions : Entries Text Session
  codes : Entries Text Text
  deriving DecidableEq

namespace Store

/-- A store without sessions. -/
def empty : Store := ⟨[], []⟩

/-- A copy of the session with this id. -/
def get? (st : Store) (id : Text) : Option Session := Entries.get? id st.sessions

/-- The session id that the index has for a code; an empty id is none. -/
def indexed? (st : Store) (code : Text) : Option Text := filled? (Entries.get? code st.codes)

/-- A copy of the session that the index has for a code. -/
def getByCode? (st : Store) (code : Text) : Option Session :=
  (st.indexed? code).bind st.get?

/-- A session as it is stored over an earlier one: what is bound stays bound. -/
def keepToken (previous s : Session) : Session :=
  match previous.accessToken with
  | none => s
  | some token => { s with
      accessToken := some token
      tokenIssuedAt := previous.tokenIssuedAt
      tokenExpiresAt := previous.tokenExpiresAt
      tokenRevoked := previous.tokenRevoked || s.tokenRevoked }

/-- The index without the code that a session is about to give up. -/
def forgetCode (codes : Entries Text Text) (previous s : Session) : Entries Text Text :=
  match previous.code? with
  | none => codes
  | some code => if s.authorizationCode = some code then codes else Entries.erase code codes

/-- The index with the code of a session, if it has one. -/
def indexCode (codes : Entries Text Text) (s : Session) : Entries Text Text :=
  match s.code? with
  | none => codes
  | some code => Entries.set code s.id codes

/-- Puts a session into the store, over the earlier one with its id if there is one. -/
def put (st : Store) (s : Session) : Store :=
  match st.get? s.id with
  | none => ⟨Entries.set s.id s st.sessions, indexCode st.codes s⟩
  | some previous =>
    ⟨Entries.set s.id (keepToken previous s) st.sessions,
      indexCode (forgetCode st.codes previous s) s⟩

/-- Binds a token to a session to which none is bound: the new store, and whether the token was
bound. There is no result if there is no such session. -/
def bindToken? (st : Store) (id token : Text) (issuedAt expiresAt : Int) : Option (Store × Bool) :=
  match st.get? id with
  | none => none
  | some s =>
    match s.accessToken with
    | some _ => some (st, false)
    | none =>
      let bound := { s with
        accessToken := some token
        tokenIssuedAt := some issuedAt
        tokenExpiresAt := some expiresAt }
      some (⟨Entries.set id bound st.sessions, st.codes⟩, true)

/-- Marks the token of a session revoked. There is no result if there is no such session. -/
def revokeToken? (st : Store) (id : Text) : Option Store :=
  match st.get? id with
  | none => none
  | some s => some ⟨Entries.set id { s with tokenRevoked := true } st.sessions, st.codes⟩

@[simp] theorem get?_empty (id : Text) : empty.get? id = none := rfl

theorem get?_put (st : Store) (s : Session) (id : Text) :
    (st.put s).get? id =
      if s.id = id then some (match st.get? s.id with
        | none => s
        | some previous => keepToken previous s)
      else st.get? id := by
  simp only [put]
  cases h : st.get? s.id <;> simp [get?, Entries.get?_set]

@[simp] theorem id_keepToken (previous s : Session) : (keepToken previous s).id = s.id := by
  simp only [keepToken]
  split <;> rfl

@[simp] theorem authorizationCode_keepToken (previous s : Session) :
    (keepToken previous s).authorizationCode = s.authorizationCode := by
  simp only [keepToken]
  split <;> rfl

end Store

end Session

end Issuance
