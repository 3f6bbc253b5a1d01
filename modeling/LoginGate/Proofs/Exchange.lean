/-
# What the token endpoint answers

An answer of the token endpoint yields claims, or a fault of verification, and in three cases
neither: the exchange breaks down on it.

| answer | the exchange |
| --- | --- |
| JSON nested too deep, also if it fails further on | breaks down |
| a token in which a surrogate stands alone | breaks down |
| a token that comes as far as to the clock of token checks, which fails | breaks down |
| any other | yields claims, or a fault of verification |

Of two parsers only the one that reads the answer gives up like that: the fault of a token whose
payload is nested too deep is one of verification.  How deep is too deep is a parameter throughout.
-/

import LoginGate.Provider.TokenEndpoint
import Mathlib.Data.List.Basic

namespace LoginGate

/-! ## Steps that may fail -/

/-- A step after another succeeds where both do. -/
theorem of_bind_eq_ok {α β ε : Type} {x : Except ε α} {f : α → Except ε β} {b : β}
    (h : (x >>= f) = .ok b) : ∃ a, x = .ok a ∧ f a = .ok b := by
  cases x with
  | error => cases h
  | ok a => exact ⟨a, rfl, h⟩

/-- A check of all items passes if each item passes it. -/
theorem forM_eq_ok_iff {α ε : Type} {check : α → Except ε Unit} {l : List α} :
    l.forM check = .ok () ↔ ∀ a ∈ l, check a = .ok () := by
  induction l with
  | nil => simp [pure, Except.pure]
  | cons a l ih =>
    rw [List.forall_mem_cons, ← ih]
    change (check a >>= fun _ => l.forM check) = .ok () ↔ _
    cases check a <;> simp [bind, Except.bind]

namespace Json

end Json

namespace IdToken

variable {c : IdTokenCheck} {claims : Fields} {token : Json} {fault : ClockFault}

/-- The clock of token checks fails for the claims of a token: it has no reading, or the leeway
cannot be taken off the reading, to be compared with the expiry. -/
def Untimed (c : IdTokenCheck) (claims : Fields) (fault : ClockFault) : Prop :=
  TokenClock.reading c.now = .error fault ∨
    ∃ t e, TokenClock.reading c.now = .ok t ∧ wholeNumber? (Fields.get "exp" claims) = some e ∧
      TokenClock.deadline t c.leeway = .error fault

/-- The check of the expiry has no verdict exactly where the clock fails for it. -/
theorem checkExpiry_eq_clock_iff :
    checkExpiry c claims = .error (.clock fault) ↔ Untimed c claims fault := by
  unfold checkExpiry Untimed
  cases reading : TokenClock.reading c.now with
  | error => simp [bind, Except.bind, Except.mapError]
  | ok t =>
    cases exp : wholeNumber? (Fields.get "exp" claims) with
    | none => simp [bind, Except.bind, Except.mapError, verdict, orFault]
    | some e =>
      cases deadline : TokenClock.deadline t c.leeway with
      | error => simp [bind, Except.bind, Except.mapError, verdict, orFault, deadline]
      | ok d =>
        simp only [bind, Except.bind, Except.mapError, verdict, orFault, deadline]
        split <;> simp [pure, Except.pure, deadline, throw, throwThe, MonadExceptOf.throw]

/-- Only a check that is passed leads on to the clock. -/
theorem verdict_bind_eq_clock_iff {α β : Type} {check : Except IdTokenFault α}
    {next : α → Except IdTokenFailure β} :
    (verdict check >>= next) = .error (.clock fault) ↔
      ∃ a, check = .ok a ∧ next a = .error (.clock fault) := by
  cases check <;> simp [verdict, Except.mapError, bind, Except.bind]

/-- A check by itself does not ask the clock. -/
theorem verdict_ne_clock {α : Type} (check : Except IdTokenFault α) :
    verdict check ≠ .error (.clock fault) := by
  cases check <;> simp [verdict, Except.mapError]

/-- A claim that must be there is there and not null. -/
theorem checkRequired_eq_ok_iff {name : String} :
    checkRequired claims name = .ok () ↔ Fields.get name claims ≠ .null := by
  unfold checkRequired
  split <;> simp [*]

/-- The checks of claims come to the clock where all that must be there are. -/
theorem checkClaims_eq_clock_iff :
    checkClaims c claims = .error (.clock fault) ↔
      (∀ name ∈ requiredClaims, Fields.get name claims ≠ .null) ∧ Untimed c claims fault := by
  have present : requiredClaims.forM (checkRequired claims) = .ok () ↔
      ∀ name ∈ requiredClaims, Fields.get name claims ≠ .null :=
    forM_eq_ok_iff.trans (forall₂_congr fun _ _ => checkRequired_eq_ok_iff)
  rw [checkClaims, verdict_bind_eq_clock_iff, ← checkExpiry_eq_clock_iff, ← present]
  constructor
  · rintro ⟨_, required, timed⟩
    refine ⟨required, ?_⟩
    cases expiry : checkExpiry c claims with
    | error => rwa [expiry] at timed
    | ok =>
      rw [expiry] at timed
      -- The checks behind the clock give a verdict.
      obtain ⟨-, -, timed⟩ := verdict_bind_eq_clock_iff.1 timed
      obtain ⟨-, -, timed⟩ := verdict_bind_eq_clock_iff.1 timed
      exact absurd timed (verdict_ne_clock _)
  · rintro ⟨required, expiry⟩
    exact ⟨(), required, by rw [expiry]; rfl⟩

/-- A token that is taken as octets is a text without surrogates that stand alone. -/
theorem textOf_eq_ok_iff {text : String} : textOf token = .ok text ↔ token = .text text := by
  unfold textOf
  split <;> simp_all

/-- A token that cannot be taken as octets is one in which a surrogate stands alone. -/
theorem textOf_eq_unencodable_iff :
    textOf token = .error .unencodable ↔ ∃ r, token = .text (.ragged r) := by
  unfold textOf
  split <;> simp_all

/-- Taking a token as octets does not ask the clock. -/
theorem textOf_ne_clock : textOf token ≠ .error (.clock fault) := by
  unfold textOf
  split <;> simp_all

/-- No check of claims finds that the token is no text in octets. -/
theorem checkClaims_ne_unencodable : checkClaims c claims ≠ .error .unencodable := by
  have plain {α : Type} (check : Except IdTokenFault α) : verdict check ≠ .error .unencodable := by
    cases check <;> simp [verdict, Except.mapError]
  have timed : checkExpiry c claims ≠ .error .unencodable := by
    unfold checkExpiry
    cases TokenClock.reading c.now with
    | error => simp [bind, Except.bind, Except.mapError]
    | ok t =>
      cases wholeNumber? (Fields.get "exp" claims) with
      | none => simp [bind, Except.bind, Except.mapError, verdict, orFault]
      | some e =>
        cases deadline : TokenClock.deadline t c.leeway with
        | error => simp [bind, Except.bind, Except.mapError, verdict, orFault, deadline]
        | ok d =>
          simp only [bind, Except.bind, Except.mapError, verdict, orFault, deadline]
          split <;> simp [pure, Except.pure, throw, throwThe, MonadExceptOf.throw]
  have after {α : Type} {check : Except IdTokenFailure α}
      {next : α → Except IdTokenFailure Unit} (first : check ≠ .error .unencodable)
      (rest : ∀ a, next a ≠ .error .unencodable) : (check >>= next) ≠ .error .unencodable := by
    cases check with
    | error failure => exact fun h => first (by cases h; rfl)
    | ok a => exact rest a
  exact after (plain _) fun _ => after timed fun _ => after (plain _) fun _ =>
    after (plain _) fun _ => plain _

/-- **A token gets no verdict** where it is read, makes the claims that it must, and the clock fails
then. -/
theorem verify_eq_clock_iff :
    verify c token = .error (.clock fault) ↔ ∃ (text : String) (claims : Fields),
      token = .text text ∧ read c.depths text = .ok claims ∧
      (∀ name ∈ requiredClaims, Fields.get name claims ≠ .null) ∧ Untimed c claims fault := by
  unfold verify
  cases taken : textOf token with
  | error failure =>
    have other : failure ≠ .clock fault := fun same => textOf_ne_clock (same ▸ taken)
    have none : ∀ text : String, token ≠ .text text := fun text same =>
      nomatch (textOf_eq_ok_iff.2 same).symm.trans taken
    simp [bind, Except.bind, other, none]
  | ok text =>
    obtain rfl := textOf_eq_ok_iff.1 taken
    change (verdict (read c.depths text) >>= fun claims => checkClaims c claims >>= fun _ =>
      pure claims) = _ ↔ _
    simp only [verdict_bind_eq_clock_iff, ← checkClaims_eq_clock_iff]
    constructor
    · rintro ⟨claims, read, h⟩
      refine ⟨text, claims, rfl, read, ?_⟩
      cases checked : checkClaims c claims with
      | error => rw [checked] at h; simpa [bind, Except.bind] using h
      | ok => rw [checked] at h; cases h
    · rintro ⟨text', claims, same, read, h⟩
      obtain rfl : text = text' := by simpa using same
      exact ⟨claims, read, by rw [h]; rfl⟩

/-- **A token cannot be taken as octets** exactly if it is a text with a surrogate that stands
alone. -/
theorem verify_eq_unencodable_iff :
    verify c token = .error .unencodable ↔ ∃ r, token = .text (.ragged r) := by
  rw [← textOf_eq_unencodable_iff, verify]
  cases taken : textOf token with
  | error => simp [bind, Except.bind]
  | ok text =>
    simp only [bind, Except.bind, reduceCtorEq, iff_false]
    cases read c.depths text with
    | error => simp [verdict, Except.mapError]
    | ok claims =>
      cases checked : checkClaims c claims with
      | error failure =>
        have other : failure ≠ .unencodable := fun same =>
          checkClaims_ne_unencodable (same ▸ checked)
        simp [verdict, Except.mapError, checked, other]
      | ok => simp [verdict, Except.mapError, checked, pure, Except.pure]

/-- The clock has a reading where a token is accepted. -/
theorem reading_of_verify (h : verify c token = .ok claims) :
    ∃ t, TokenClock.reading c.now = .ok t := by
  obtain ⟨text, -, h⟩ := of_bind_eq_ok h
  obtain ⟨fields, -, h⟩ := of_bind_eq_ok h
  obtain ⟨_, checked, -⟩ := of_bind_eq_ok h
  obtain ⟨_, -, checked⟩ := of_bind_eq_ok checked
  obtain ⟨_, expiry, -⟩ := of_bind_eq_ok checked
  obtain ⟨t, reading, -⟩ := of_bind_eq_ok expiry
  cases shown : TokenClock.reading c.now with
  | error => cases shown ▸ reading
  | ok t => exact ⟨t, rfl⟩

end IdToken

namespace TokenEndpoint

variable {c : Configuration} {leeway : Seconds} {depths : Depths} {now : Instant} {reply : Reply}
  {cause : Breakdown}

/-- The exchange of a code breaks down on an answer. -/
inductive BreaksDown (c : Configuration) (leeway : Seconds) (depths : Depths) (now : Instant) :
    Reply → Breakdown → Prop
  /-- It is JSON nested too deep, or begins like that. -/
  | depth {status : Int} {body : String} {nesting : Json.Nesting}
      (good : Provider.isGood status = true)
      (deep : Json.ofText depths.answer body = .error (.tooDeep nesting)) :
      BreaksDown c leeway depths now (.response status body) .depth
  /-- It holds a token in which a surrogate stands alone. -/
  | encoding {status : Int} {body : String} {response : Json} {token : Ragged}
      (good : Provider.isGood status = true)
      (json : Json.ofText depths.answer body = .ok response)
      (token : Fields.get "id_token" (response.asFields?.getD []) = .text (.ragged token)) :
      BreaksDown c leeway depths now (.response status body) .encoding
  /-- It holds a token that comes as far as to the clock of token checks, which fails. -/
  | clock {status : Int} {body text : String} {response : Json} {claims : Fields}
      {fault : ClockFault} (good : Provider.isGood status = true)
      (json : Json.ofText depths.answer body = .ok response)
      (token : Fields.get "id_token" (response.asFields?.getD []) = .text text) (given : text ≠ "")
      (read : IdToken.read depths text = .ok claims)
      (required : ∀ name ∈ IdToken.requiredClaims, Fields.get name claims ≠ .null)
      (untimed : IdToken.Untimed (checkOf c leeway depths now) claims fault) :
      BreaksDown c leeway depths now (.response status body) (.clock fault)

/-- Reading an answer breaks down on JSON nested too deep. -/
theorem answerFields_eq_breakdown_iff :
    answerFields depths.answer reply = .error (.breakdown cause) ↔ cause = .depth ∧
      ∃ status body nesting, reply = .response status body ∧ Provider.isGood status = true ∧
        Json.ofText depths.answer body = .error (.tooDeep nesting) := by
  cases reply with
  | unreachable => simp [answerFields, unverified]
  | response status body =>
    cases good : Provider.isGood status with
    | false => simp [answerFields, unverified, good]
    | true =>
      cases json : Json.ofText depths.answer body with
      | ok => simp [answerFields, good, json]
      | error fault =>
        cases fault <;>
          simp [answerFields, unverified, good, json, Json.ReadFault.isTooDeep,
            eq_comm (a := cause)]

/-- An answer that is read is JSON; one that is no object has no fields. -/
theorem answerFields_eq_ok_iff {fields : Fields} :
    answerFields depths.answer reply = .ok fields ↔ ∃ status body response,
      reply = .response status body ∧ Provider.isGood status = true ∧
      Json.ofText depths.answer body = .ok response ∧
      response.asFields?.getD [] = fields := by
  cases reply with
  | unreachable => simp [answerFields, unverified]
  | response status body =>
    cases good : Provider.isGood status with
    | false => simp [answerFields, unverified, good]
    | true =>
      cases json : Json.ofText depths.answer body with
      | ok => simp [answerFields, good, json]
      | error fault =>
        cases fault <;> simp [answerFields, unverified, good, json, Json.ReadFault.isTooDeep]

/-- The exchange of a code breaks down on an answer that is read where its token is no text in
octets, or where the clock fails for it. -/
theorem verified_eq_breakdown_of_fields {response : Fields}
    (fields : answerFields depths.answer reply = .ok response) :
    verified c leeway depths now reply = .error (.breakdown cause) ↔
      (cause = .encoding ∧ ∃ r, Fields.get "id_token" response = .text (.ragged r)) ∨
      ∃ (fault : ClockFault) (text : String) (claims : Fields), cause = .clock fault ∧
        Fields.get "id_token" response = .text text ∧ text ≠ "" ∧
        IdToken.read depths text = .ok claims ∧
        (∀ name ∈ IdToken.requiredClaims, Fields.get name claims ≠ .null) ∧
        IdToken.Untimed (checkOf c leeway depths now) claims fault := by
  rw [verified, fields]
  constructor
  · intro h
    change (if !(Fields.get "id_token" response).isTruthy then _ else _) = _ at h
    split at h
    · cases h
    · rename_i truthy
      split at h
      · cases h
      · rename_i fault unsure
        obtain rfl := ExchangeFault.breakdown.inj (Except.error.inj h)
        obtain ⟨text, claims, token, read, required, untimed⟩ :=
          IdToken.verify_eq_clock_iff.1 unsure
        refine .inr ⟨fault, text, claims, rfl, token, ?_, read, required, untimed⟩
        rintro rfl
        exact truthy (by rw [token]; rfl)
      · rename_i ragged
        obtain rfl := ExchangeFault.breakdown.inj (Except.error.inj h)
        exact .inl ⟨rfl, IdToken.verify_eq_unencodable_iff.1 ragged⟩
      · cases h
  · rintro (⟨rfl, r, token⟩ | ⟨fault, text, claims, rfl, token, given, read, required, untimed⟩)
    · have ragged : IdToken.verify (checkOf c leeway depths now) (.text (.ragged r)) =
          .error .unencodable := IdToken.verify_eq_unencodable_iff.2 ⟨r, rfl⟩
      have truthy : (Json.text (.ragged r)).isTruthy = true := rfl
      simp [bind, Except.bind, token, truthy, ragged, throw, throwThe, MonadExceptOf.throw]
    · have unsure : IdToken.verify (checkOf c leeway depths now) (.text text) =
          .error (.clock fault) :=
        IdToken.verify_eq_clock_iff.2 ⟨text, claims, rfl, read, required, untimed⟩
      have truthy : (Json.text text).isTruthy = true := by
        simp [Json.isTruthy, WideText.isEmpty, given]
      simp [bind, Except.bind, token, truthy, unsure, throw, throwThe, MonadExceptOf.throw]

/-- **An exchange breaks down** on an answer that is nested too deep, and on a token that is no text
in octets or that the clock fails for; any other answer gives a verdict. -/
theorem verified_eq_breakdown_iff :
    verified c leeway depths now reply = .error (.breakdown cause) ↔
      BreaksDown c leeway depths now reply cause := by
  constructor
  · intro h
    cases fields : answerFields depths.answer reply with
    | error fault =>
      rw [verified, fields] at h
      obtain rfl : fault = .breakdown cause := Except.error.inj h
      obtain ⟨rfl, status, body, nesting, rfl, good, deep⟩ :=
        answerFields_eq_breakdown_iff.1 fields
      exact .depth good deep
    | ok response =>
      obtain ⟨status, body, answer, rfl, good, json, rfl⟩ := answerFields_eq_ok_iff.1 fields
      obtain ⟨rfl, r, token⟩ | ⟨fault, text, claims, rfl, token, given, read, required, untimed⟩ :=
        (verified_eq_breakdown_of_fields fields).1 h
      · exact .encoding good json token
      · exact .clock good json token given read required untimed
  · intro h
    cases h with
    | depth good deep =>
      rw [verified, answerFields_eq_breakdown_iff.2 ⟨rfl, _, _, _, rfl, good, deep⟩]
      rfl
    | encoding good json token =>
      have fields := answerFields_eq_ok_iff.2 ⟨_, _, _, rfl, good, json, rfl⟩
      exact (verified_eq_breakdown_of_fields fields).2 (.inl ⟨rfl, _, token⟩)
    | clock good json token given read required untimed =>
      have fields := answerFields_eq_ok_iff.2 ⟨_, _, _, rfl, good, json, rfl⟩
      exact (verified_eq_breakdown_of_fields fields).2
        (.inr ⟨_, _, _, rfl, token, given, read, required, untimed⟩)

/-- Where the exchange yields claims, the time is told in whole seconds. -/
theorem wholeSeconds_of_verified {v : Verified}
    (h : verified c leeway depths now reply = .ok v) : ∃ n, now.wholeSeconds = .ok n := by
  obtain ⟨response, -, h⟩ := of_bind_eq_ok h
  dsimp only at h
  split at h
  · cases h
  · split at h
    · cases h
    · cases h
    · cases h
    · rename_i accepted
      obtain ⟨t, reading⟩ := IdToken.reading_of_verify accepted
      obtain ⟨n, whole, -⟩ := of_bind_eq_ok reading
      exact ⟨n, whole⟩

/-- An exchange asks once, and its result is what the next answer gives. -/
theorem exchange_result (c : Configuration) (leeway : Seconds) (depths : Depths) (now : Instant)
    (replies : List Reply) (code redirectUri : String) :
    (exchange c leeway depths now replies code redirectUri).result =
      verified c leeway depths now (Provider.next replies).1 := by
  unfold exchange
  dsimp only
  cases verified c leeway depths now (Provider.next replies).1 <;> rfl

end TokenEndpoint
end LoginGate
