/-
# The tokens that are accepted

The signature of a token is not verified, so its claims are all that speaks for the browser.  A
token is accepted exactly if it carries claims that pass every rule, and those claims are what it
yields.  A token in which a surrogate stands alone carries nothing: it is no text in octets.  Claims
may hold such texts, and they are compared as they are.

| the claims | rule |
| --- | --- |
| `sub`, `aud`, `exp` | there, and not null |
| `exp` | as a whole number, later than the clock less the leeway |
| `iss` | the issuer, unless that is empty |
| `aud` | the client, or a list of texts with the client among them |
| `azp` | null or the client; not null beside a list of several audiences |

In years that have a calendar the clock shows whole seconds as they are, and takes a leeway of whole
seconds off exactly.
-/

import LoginGate.Proofs.Rounding
import LoginGate.Proofs.Segments

namespace LoginGate

/-- A result is the same under other names of the faults. -/
theorem mapError_eq_ok_iff {α ε δ : Type} {x : Except ε α} {f : ε → δ} {a : α} :
    x.mapError f = .ok a ↔ x = .ok a := by
  cases x <;> simp [Except.mapError]

/-- Two steps succeed where both do. -/
theorem bind_eq_ok_iff {α β ε : Type} {x : Except ε α} {f : α → Except ε β} {b : β} :
    (x >>= f) = .ok b ↔ ∃ a, x = .ok a ∧ f a = .ok b :=
  ⟨of_bind_eq_ok, fun ⟨_, done, next⟩ => done ▸ next⟩

/-- Checks are passed one after the other. -/
theorem check_bind_eq_ok_iff {β ε : Type} {check : Except ε Unit} {next : Unit → Except ε β}
    {b : β} : (check >>= next) = .ok b ↔ check = .ok () ∧ next () = .ok b :=
  bind_eq_ok_iff.trans ⟨fun ⟨_, done, next⟩ => ⟨done, next⟩, fun both => ⟨(), both⟩⟩

/-! ## The clock -/

/-- A double that is a whole number is compared with whole numbers as that number. -/
theorem Seconds.isBefore_whole_iff {d : Double} {z expiry : Int} (h : d.IsWhole z) :
    Seconds.isBefore (.real d) (.whole expiry) = true ↔ z < expiry := by
  obtain ⟨n, k, ratio, value⟩ := h
  have pos : (0 : ℚ) < k := by exact_mod_cast (Double.isAbove_of_ratio? ratio).1
  have same : (Seconds.real d).ratio? = some (n, k) := ratio
  have whole : (Seconds.whole expiry).ratio? = some (expiry, 1) := rfl
  have less : n * (1 : ℕ) < expiry * k ↔ z < expiry := by
    have scaled : (z : ℚ) < expiry ↔ (n : ℚ) < expiry * k := by rw [← value, div_lt_iff₀ pos]
    rw [Nat.cast_one, mul_one]
    exact_mod_cast scaled.symm
  simp only [Seconds.isBefore, same, whole, decide_eq_true_eq, less]

namespace TokenClock

variable {n l expiry : Int} {t : Double}

/-- An expiry is later than the time on the clock of token checks less the leeway. -/
def Outlives (leeway : Seconds) (now : Instant) (expiry : Int) : Prop :=
  ∃ t d, reading now = .ok t ∧ deadline t leeway = .ok d ∧
    Seconds.isBefore (.real d) (.whole expiry) = true

/-- Whole seconds are shown as they are. -/
theorem reading_whole (year : hasYear n = true) :
    ∃ t, reading (.whole n) = .ok t ∧ t.IsWhole n := by
  obtain ⟨since, before⟩ : -62135596800 ≤ n ∧ n < 253402300800 := by simpa [hasYear] using year
  have seconds : (n * second).fdiv second = n := Int.mul_fdiv_cancel n (by decide)
  have counted : ¬ (n < -countable ∨ countable ≤ n) := by
    unfold countable
    omega
  have calendar : hasCalendar n = true := by
    simp only [hasCalendar, Bool.and_eq_true, decide_eq_true_eq]
    omega
  refine ⟨Double.nearestTo (n * second) second.toNat, ?_,
    Double.isWhole_nearestTo (by decide) ?_ ?_⟩
  · simp only [reading, Seconds.wholeSeconds_whole, microseconds, seconds, if_neg counted, calendar,
      year]
    rfl
  · have million : ((second.toNat : ℕ) : ℚ) = second := by exact_mod_cast rfl
    rw [million, Int.cast_mul, mul_div_cancel_right₀ _ (by norm_num [second])]
  · omega

/-- Whole seconds are taken off exactly. -/
theorem deadline_whole (whole : t.IsWhole n) (near : l.natAbs < 2 ^ 53)
    (small : (n - l).natAbs < 2 ^ 53) :
    ∃ d, deadline t (.whole l) = .ok d ∧ d.IsWhole (n - l) := by
  have length : (Double.nearestTo l 1).IsWhole l :=
    Double.isWhole_nearestTo one_pos (by simp) near
  refine ⟨t.add (Double.nearestTo l 1).negate, ?_, whole.add length.negate small⟩
  have same : (Seconds.whole l).toDouble = Double.nearestTo l 1 := rfl
  obtain ⟨_, _, ratio, -⟩ := length
  unfold deadline
  rw [same]
  split
  · rename_i beyond
    rw [beyond] at ratio
    cases ratio
  · rfl

/-- **On whole seconds the clock is exact.** -/
theorem outlives_whole_iff (year : hasYear n = true) (near : l.natAbs ≤ 2 ^ 52) :
    Outlives (.whole l) (.whole n) expiry ↔ n - l < expiry := by
  obtain ⟨since, before⟩ : -62135596800 ≤ n ∧ n < 253402300800 := by simpa [hasYear] using year
  obtain ⟨t, shown, whole⟩ := reading_whole year
  obtain ⟨d, taken, exact⟩ := deadline_whole whole (l := l) (by omega) (by omega)
  rw [← Seconds.isBefore_whole_iff exact]
  constructor
  · rintro ⟨t', d', shown', taken', before⟩
    obtain rfl := Except.ok.inj (shown.symm.trans shown')
    obtain rfl := Except.ok.inj (taken.symm.trans taken')
    exact before
  · exact fun before => ⟨t, d, shown, taken, before⟩

end TokenClock

/-! ## The claims -/

namespace IdToken

variable {c : Configuration} {leeway : Seconds} {depths : Depths} {now : Instant} {token : Json}
  {claims : Fields}

/-- The claims of a token pass every rule. -/
structure Accepts (c : Configuration) (leeway : Seconds) (now : Instant) (claims : Fields) :
    Prop where
  required : ∀ name ∈ requiredClaims, Fields.get name claims ≠ .null
  expiry : ∃ e, wholeNumber? (Fields.get "exp" claims) = some e ∧ TokenClock.Outlives leeway now e
  issuer : c.issuer ≠ "" → Fields.get? "iss" claims = some (.text c.issuer)
  audience : Fields.get "aud" claims = .text c.clientId ∨
    ∃ l : List WideText, Fields.get "aud" claims = .array (l.map .text) ∧ ↑c.clientId ∈ l
  party : Fields.get "azp" claims = .null ∨ Fields.get "azp" claims = .text c.clientId
  several : ∀ l, Fields.get "aud" claims = .array l → 1 < l.length →
    Fields.get "azp" claims ≠ .null

/-- A check is passed by itself where it is passed as a part of all checks. -/
theorem verdict_eq_ok_iff {α : Type} {check : Except IdTokenFault α} {a : α} :
    verdict check = .ok a ↔ check = .ok a :=
  mapError_eq_ok_iff

/-- The check of the expiry is passed where the expiry is later than the clock less the leeway. -/
theorem checkExpiry_eq_ok_iff :
    checkExpiry (TokenEndpoint.checkOf c leeway depths now) claims = .ok () ↔
    ∃ e, wholeNumber? (Fields.get "exp" claims) = some e ∧
      TokenClock.Outlives leeway now e := by
  have ends {d : Double} {e : Int} :
      (if Seconds.isBefore (.real d) (.whole e) then pure () else throw (.refused .expired) :
        Except IdTokenFailure Unit) = .ok () ↔ Seconds.isBefore (.real d) (.whole e) = true := by
    split <;> simp_all [pure, Except.pure, throw, throwThe, MonadExceptOf.throw]
  simp only [checkExpiry, bind_eq_ok_iff, mapError_eq_ok_iff, verdict_eq_ok_iff,
    orFault_eq_ok_iff, ends, TokenEndpoint.checkOf]
  constructor
  · rintro ⟨t, shown, e, read, d, taken, before⟩
    exact ⟨e, read, t, d, shown, taken, before⟩
  · rintro ⟨e, read, t, d, shown, taken, before⟩
    exact ⟨t, shown, e, read, d, taken, before⟩

/-- The check of the issuer is passed where the claims name the configured one. -/
theorem checkIssuer_eq_ok_iff :
    checkIssuer (TokenEndpoint.checkOf c leeway depths now) claims = .ok () ↔
    (c.issuer ≠ "" → Fields.get? "iss" claims = some (.text c.issuer)) := by
  have same : (TokenEndpoint.checkOf c leeway depths now).issuer = c.issuer := rfl
  rw [checkIssuer, same]
  by_cases given : c.issuer = ""
  · simp [given]
  · rw [if_neg (by simpa using given)]
    split
    · simp_all
    · split <;> simp_all
    · simp_all

/-- Items are all texts where they are the texts of a list. -/
theorem mapM_asText?_eq_some_iff {items : List Json} {l : List WideText} :
    items.mapM Json.asText? = some l ↔ items = l.map .text := by
  induction items generalizing l with
  | nil => cases l <;> simp
  | cons v items ih =>
    cases v with
    | text s => cases l <;> simp [Json.asText?, Option.bind_eq_some_iff, ih, and_comm]
    | _ => cases l <;> simp [Json.asText?]

/-- A claim names audiences where it is a text or a list of texts. -/
theorem audiences?_eq_some_iff {aud : Json} {l : List WideText} : audiences? aud = some l ↔
    (∃ s, aud = .text s ∧ l = [s]) ∨ aud = .array (l.map .text) := by
  cases aud with
  | text s => simp [audiences?, eq_comm]
  | array items => simp [audiences?, mapM_asText?_eq_some_iff]
  | _ => simp [audiences?]

/-- An audience that names a client which is not empty counts as there. -/
theorem checkAudience_eq_ok_iff (given : c.clientId ≠ "") :
    checkAudience (TokenEndpoint.checkOf c leeway depths now) claims = .ok () ↔
      Fields.get "aud" claims = .text c.clientId ∨
        ∃ l : List WideText, Fields.get "aud" claims = .array (l.map .text) ∧ ↑c.clientId ∈ l := by
  have client : (TokenEndpoint.checkOf c leeway depths now).clientId = c.clientId := rfl
  have named : checkAudience (TokenEndpoint.checkOf c leeway depths now) claims = .ok () ↔
      (Fields.get "aud" claims).isTruthy = true ∧
        ∃ l, audiences? (Fields.get "aud" claims) = some l ∧ ↑c.clientId ∈ l := by
    rw [checkAudience, client]
    cases (Fields.get "aud" claims).isTruthy with
    | false => simp
    | true => cases audiences? (Fields.get "aud" claims) <;> simp
  rw [named]
  simp only [audiences?_eq_some_iff]
  constructor
  · rintro ⟨-, l, ⟨s, aud, rfl⟩ | aud, own⟩
    · exact .inl (List.mem_singleton.1 own ▸ aud)
    · exact .inr ⟨l, aud, own⟩
  · rintro (aud | ⟨l, aud, own⟩) <;> rw [aud]
    · exact ⟨by simpa [Json.isTruthy, WideText.isEmpty] using given, _, .inl ⟨_, rfl, rfl⟩,
        List.mem_singleton_self _⟩
    · exact ⟨by simpa [Json.isTruthy] using List.ne_nil_of_mem own, l, .inr rfl, own⟩

/-- The check of the party is passed where it is the client, or nobody beside one audience. -/
theorem checkParty_eq_ok_iff :
    checkParty (TokenEndpoint.checkOf c leeway depths now) claims = .ok () ↔
    (Fields.get "azp" claims = .null ∨ Fields.get "azp" claims = .text c.clientId) ∧
      ∀ l, Fields.get "aud" claims = .array l → 1 < l.length →
        Fields.get "azp" claims ≠ .null := by
  have client : (TokenEndpoint.checkOf c leeway depths now).clientId = c.clientId := rfl
  have several : isSeveral (Fields.get "aud" claims) = true ↔
      ∃ l, Fields.get "aud" claims = .array l ∧ 1 < l.length := by
    cases Fields.get "aud" claims with
    | array l => rcases l with _ | ⟨_, _ | _⟩ <;> simp [isSeveral]
    | _ => simp [isSeveral]
  rw [checkParty, client]
  by_cases nobody : Fields.get "azp" claims = .null
  · rw [if_pos nobody]
    by_cases list : isSeveral (Fields.get "aud" claims) = true
    · obtain ⟨l, aud, more⟩ := several.1 list
      rw [if_pos list]
      exact iff_of_false nofun fun rules => rules.2 l aud more nobody
    · rw [if_neg list]
      exact iff_of_true rfl
        ⟨.inl nobody, fun l aud more => absurd (several.2 ⟨l, aud, more⟩) list⟩
  · rw [if_neg nobody, or_iff_right nobody]
    by_cases own : Fields.get "azp" claims = .text c.clientId
    · rw [if_pos own]
      exact iff_of_true rfl ⟨own, fun _ _ _ => nobody⟩
    · rw [if_neg own]
      exact iff_of_false nofun fun rules => own rules.1

/-- **The checks of claims** are passed exactly by the claims that pass every rule. -/
theorem checkClaims_eq_ok_iff (given : c.clientId ≠ "") :
    checkClaims (TokenEndpoint.checkOf c leeway depths now) claims = .ok () ↔
      Accepts c leeway now claims := by
  have required : requiredClaims.forM (checkRequired claims) = .ok () ↔
      ∀ name ∈ requiredClaims, Fields.get name claims ≠ .null :=
    forM_eq_ok_iff.trans (forall₂_congr fun _ _ => checkRequired_eq_ok_iff)
  simp only [checkClaims, check_bind_eq_ok_iff, verdict_eq_ok_iff, checkExpiry_eq_ok_iff,
    checkIssuer_eq_ok_iff, checkAudience_eq_ok_iff given, checkParty_eq_ok_iff, required]
  constructor
  · rintro ⟨present, expiry, issuer, audience, party, several⟩
    exact ⟨present, expiry, issuer, audience, party, several⟩
  · rintro ⟨present, expiry, issuer, audience, party, several⟩
    exact ⟨present, expiry, issuer, audience, party, several⟩

/-! ## The token -/

/-- A token carries claims that pass every rule. -/
structure Earns (c : Configuration) (leeway : Seconds) (depths : Depths) (now : Instant)
    (token : Json) (claims : Fields) : Prop where
  carried : ∃ (text : String) (header : Fields), token = .text text ∧
    Carries depths text header claims ∧ Usable header
  accepts : Accepts c leeway now claims

/-- A token is accepted exactly with the claims that it earns. -/
theorem verify_eq_ok_iff (given : c.clientId ≠ "") :
    verify (TokenEndpoint.checkOf c leeway depths now) token = .ok claims ↔
      Earns c leeway depths now token claims := by
  have same : (TokenEndpoint.checkOf c leeway depths now).depths = depths := rfl
  simp only [verify, bind_eq_ok_iff, verdict_eq_ok_iff, textOf_eq_ok_iff, same, read_eq_ok_iff]
  constructor
  · rintro ⟨text, rfl, fields, ⟨header, carries, usable⟩, _, checked, same⟩
    obtain rfl := Except.ok.inj same
    exact ⟨⟨text, header, rfl, carries, usable⟩, (checkClaims_eq_ok_iff given).1 checked⟩
  · rintro ⟨⟨text, header, rfl, carries, usable⟩, accepts⟩
    exact ⟨text, rfl, claims, ⟨header, carries, usable⟩, (),
      (checkClaims_eq_ok_iff given).2 accepts, rfl⟩

/-- **ID tokens are accepted exactly under these rules.**  For a configuration that is usable, any
leeway and any time, a token yields claims exactly if it carries them and they pass every rule, and
a fault if it carries none such.  With a header that names nothing but the algorithm and the type
claims need no more than to pass the rules, also in a text that is made of any such header and
claims in octets.  On whole seconds the clock of the rules is exact.  All this holds however deep a
header and a payload may be nested, as long as they are nested no deeper. -/
theorem earns_iff (valid : c.check = .ok c) (leeway : Seconds) (depths : Depths) (now : Instant)
    (token : Json) :
    let verified := verify (TokenEndpoint.checkOf c leeway depths now) token
    (∀ claims, verified = .ok claims ↔ Earns c leeway depths now token claims) ∧
      ((∃ failure, verified = .error failure) ↔
        ∀ claims, ¬ Earns c leeway depths now token claims) ∧
      (∀ (text : String) header claims, token = .text text → Carries depths text header claims →
        IsSimple header → Accepts c leeway now claims → verified = .ok claims) ∧
      (∀ h p signature header claims, token = .text (compact h p signature) →
        Json.ofOctets depths.header h = .ok (.object header) →
        Json.ofOctets depths.payload p = .ok (.object claims) →
        IsSimple header → Accepts c leeway now claims → verified = .ok claims) ∧
      ∀ n l e, now = .whole n → leeway = .whole l → TokenClock.hasYear n = true →
        l.natAbs ≤ 2 ^ 52 → (TokenClock.Outlives leeway now e ↔ n - l < e) := by
  intro verified
  have given : c.clientId ≠ "" := by
    rintro empty
    simp [Configuration.check, empty] at valid
  have earns claims : verified = .ok claims ↔ Earns c leeway depths now token claims :=
    verify_eq_ok_iff given
  have enough : ∀ (text : String) header claims, token = .text text →
      Carries depths text header claims → IsSimple header → Accepts c leeway now claims →
      verified = .ok claims :=
    fun text header claims shown carries simple accepts =>
      (earns claims).2 ⟨⟨text, header, shown, carries, simple.usable⟩, accepts⟩
  refine ⟨earns, ?_, enough, fun h p signature header claims made first second => ?_, ?_⟩
  · simp only [← earns]
    cases verified <;> simp
  · exact enough _ header claims made (carries_compact signature first second)
  · rintro n l e rfl rfl year near
    exact TokenClock.outlives_whole_iff year near

/-- A token for two audiences, issued to the client, is accepted half a minute after its expiry, and
then no more. -/
theorem earns_of_late_token :
    let c : Configuration :=
      { issuer := "https://idp", authorizationEndpoint := .text "https://idp/auth"
        tokenEndpoint := .text "https://idp/token", clientId := "app" }
    let token := Json.text
      ("eyJhbGciOiJub25lIn0." ++
        "eyJpc3MiOiJodHRwczovL2lkcCIsInN1YiI6ImFsaWNlIiwiYXVkIjpbImFwcCIsIm90aGVyIl0s" ++
        "ImF6cCI6ImFwcCIsImV4cCI6MTAwfQ.")
    let claims : Fields :=
      [("iss", .text "https://idp"), ("sub", .text "alice"),
        ("aud", .array [.text "app", .text "other"]), ("azp", .text "app"), ("exp", .int 100)]
    let depths : Depths := ⟨1, 1, 1, 2⟩
    c.check = .ok c ∧ Earns c (.whole 30) depths (.whole 129) token claims ∧
      ¬ Earns c (.whole 30) depths (.whole 130) token claims := by
  intro c token claims depths
  have valid : c.check = .ok c := by decide +kernel
  have early : verify (TokenEndpoint.checkOf c (.whole 30) depths (.whole 129)) token =
      .ok claims := by
    decide +kernel
  refine ⟨valid, ((earns_iff valid (.whole 30) depths (.whole 129) token).1 claims).1 early,
    fun late => ?_⟩
  obtain ⟨-, -, -, -, exact⟩ := earns_iff valid (.whole 30) depths (.whole 130) token
  obtain ⟨e, expiry, outlives⟩ := late.accepts.expiry
  obtain rfl : 100 = e := Option.some.inj expiry
  exact absurd ((exact 130 30 100 rfl rfl rfl (by decide)).1 outlives) (by decide)

end IdToken
end LoginGate
