/-
# What a discovery ends with

A discovery asks for one document and ends with a configuration that can be used, or with a fault
that is reported.  Some answers lead it elsewhere: all of them are good JSON, but of another shape
than a discovery document.

| answer | the discovery |
| --- | --- |
| nested too deep, no object, or its issuer no text | breaks off with a fault that nobody reports |
| an endpoint that counts as true and is no text | takes it for an endpoint |
| any other | ends as it should |

An endpoint is tested for its truth and the issuer is handled as a text untested, so the shape of
what stands there never comes up.  A text may hold surrogates that stand alone: an issuer with one
is another than the requested one, which holds none.
-/

import LoginGate.Proofs.Exchange
import LoginGate.Provider.Configuration

namespace LoginGate

/-- Two steps fail where one of them does. -/
theorem of_bind_eq_error {α β ε : Type} {x : Except ε α} {f : α → Except ε β} {e : ε}
    (h : (x >>= f) = .error e) : x = .error e ∨ ∃ a, x = .ok a ∧ f a = .error e := by
  cases x with
  | error => exact .inl (congrArg Except.error (Except.error.inj h))
  | ok a => exact .inr ⟨a, rfl, h⟩

/-- The fault is reported with a message. -/
def ConfigurationFault.IsReported (fault : ConfigurationFault) : Prop :=
  fault.message?.isSome = true

instance (fault : ConfigurationFault) : Decidable fault.IsReported :=
  inferInstanceAs (Decidable (_ = true))

namespace Json

/-- The value is a text that is not empty. -/
def IsFilledText (v : Json) : Prop :=
  ∃ s : WideText, v = .text s ∧ s.isEmpty = false

variable {v : Json}

/-- A text counts as true unless it is empty. -/
theorem isTruthy_text_iff {s : WideText} : (Json.text s).isTruthy = true ↔ s.isEmpty = false := by
  simp [isTruthy]

/-- A value is a text where it has one. -/
theorem asText?_eq_some_iff {s : WideText} : v.asText? = some s ↔ v = .text s := by
  cases v <;> simp [asText?]

/-- A value that counts as true is a filled text unless it is no text at all. -/
theorem isFilledText_iff (truthy : v.isTruthy = true) : v.IsFilledText ↔ v.asText? ≠ none := by
  constructor
  · rintro ⟨s, rfl, -⟩
    nofun
  · intro text
    obtain ⟨s, same⟩ := Option.ne_none_iff_exists'.1 text
    obtain rfl := asText?_eq_some_iff.1 same
    exact ⟨s, rfl, isTruthy_text_iff.1 truthy⟩

end Json

namespace Configuration

variable {r : Registration} {c : Configuration} {doc : Fields} {depth : Nat} {reply : Reply}
  {fault : ConfigurationFault}

/-- A configuration that serves a registration: with a client id, two endpoints that are texts, and
the issuer that was asked for, up to slashes at the end. -/
structure Serves (r : Registration) (c : Configuration) : Prop where
  authorization : c.authorizationEndpoint.IsFilledText
  token : c.tokenEndpoint.IsFilledText
  client : c.clientId ≠ ""
  issuer : Text.dropEndChar '/' c.issuer = Text.dropEndChar '/' r.issuer

/-- A discovery ends as it should: with a configuration that serves, or with a fault that is
reported. -/
inductive Settles (r : Registration) : Except ConfigurationFault Configuration → Prop
  | served {c : Configuration} (h : Serves r c) : Settles r (.ok c)
  | reported {fault : ConfigurationFault} (h : fault.IsReported) : Settles r (.error fault)

/-! ## The document -/

/-- A document stands in an answer. -/
def Holds (depth : Nat) (reply : Reply) (doc : Fields) : Prop :=
  ∃ status body, reply = .response status body ∧ Provider.isGood status = true ∧
    Json.ofText depth body = .ok (.object doc)

/-- An answer is JSON that gives no document and no report either: it is nested too deep, or no
object. -/
inductive Formless (depth : Nat) : Reply → Prop
  | deep {status : Int} {body : String} {nesting : Json.Nesting}
      (good : Provider.isGood status = true)
      (deep : Json.ofText depth body = .error (.tooDeep nesting)) :
      Formless depth (.response status body)
  | flat {status : Int} {body : String} {v : Json} (good : Provider.isGood status = true)
      (json : Json.ofText depth body = .ok v) (flat : v.asFields? = none) :
      Formless depth (.response status body)

/-- What an answer of another status gives is refused with that status. -/
theorem document_of_bad {status : Int} {body : String} (bad : Provider.isGood status = false) :
    document depth (.response status body) = .error (.refused status body) := by
  simp [document, bad]

/-- What an answer of a good status gives depends on its body alone. -/
theorem document_of_good {status : Int} {body : String} (good : Provider.isGood status = true) :
    document depth (.response status body) =
      match Json.ofText depth body with
      | .error fault => .error (if fault.isTooDeep then .tooDeep else .notJson)
      | .ok (.object doc) => .ok doc
      | .ok _ => .error .notAnObject := by
  unfold document
  dsimp only
  rw [good]
  rfl

/-- An answer gives the document that stands in it. -/
theorem document_eq_ok_iff : document depth reply = .ok doc ↔ Holds depth reply doc := by
  cases reply with
  | unreachable => simp [document, Holds]
  | response status body =>
    cases good : Provider.isGood status with
    | false => simp [document_of_bad good, Holds, good]
    | true =>
      rw [document_of_good good]
      cases json : Json.ofText depth body with
      | error => simp [Holds, json]
      | ok v => cases v <;> simp [Holds, good, json]

/-- An answer gives neither a document nor a fault that is reported exactly where it is formless. -/
theorem document_unreported_iff :
    (∃ fault, document depth reply = .error fault ∧ ¬ fault.IsReported) ↔
      Formless depth reply := by
  constructor
  · rintro ⟨fault, h, unreported⟩
    cases reply with
    | unreachable =>
      obtain rfl := Except.error.inj h
      exact absurd rfl unreported
    | response status body =>
      cases good : Provider.isGood status with
      | false =>
        rw [document_of_bad good] at h
        obtain rfl := Except.error.inj h
        exact absurd rfl unreported
      | true =>
        rw [document_of_good good] at h
        cases json : Json.ofText depth body with
        | error deep =>
          rw [json] at h
          cases deep with
          | tooDeep nesting => exact .deep good json
          | _ =>
            obtain rfl := Except.error.inj h
            exact absurd rfl unreported
        | ok v =>
          rw [json] at h
          refine .flat good json ?_
          cases v with
          | object => cases h
          | _ => rfl
  · intro formless
    cases formless with
    | deep good deep =>
      rw [document_of_good good, deep]
      exact ⟨.tooDeep, rfl, nofun⟩
    | @flat status body v good json flat =>
      rw [document_of_good good, json]
      cases v with
      | object => cases flat
      | _ => exact ⟨.notAnObject, rfl, nofun⟩

/-! ## The configuration in a document -/

/-- The document has endpoints: any value that counts as true is taken for one. -/
structure Equipped (doc : Fields) : Prop where
  authorization : (Fields.get "authorization_endpoint" doc).isTruthy = true
  token : (Fields.get "token_endpoint" doc).isTruthy = true

/-- The issuer of a document is a text, and the one that was asked for. -/
def Agrees (r : Registration) (doc : Fields) (found : String) : Prop :=
  documentIssuer r.issuer doc = .text found ∧
    Text.dropEndChar '/' found = Text.dropEndChar '/' r.issuer

/-- The configuration that a document gives under an issuer. -/
def given (r : Registration) (doc : Fields) (found : String) : Configuration where
  issuer := found
  authorizationEndpoint := Fields.get "authorization_endpoint" doc
  tokenEndpoint := Fields.get "token_endpoint" doc
  clientId := r.clientId
  clientSecret := r.clientSecret
  scopes := r.scopes
  metadata := doc

/-- A document without endpoints gives no configuration. -/
theorem ofDocument_of_not_equipped (h : ¬ Equipped doc) :
    ofDocument r doc = .error .noEndpoints := by
  unfold ofDocument
  dsimp only
  refine if_pos ?_
  cases authorization : (Fields.get "authorization_endpoint" doc).isTruthy with
  | false => rfl
  | true =>
    cases token : (Fields.get "token_endpoint" doc).isTruthy with
    | false => rfl
    | true => exact absurd ⟨authorization, token⟩ h

/-- What a document with endpoints gives depends on its issuer alone. -/
theorem Equipped.ofDocument (h : Equipped doc) :
    ofDocument r doc =
      match documentIssuer r.issuer doc with
      | .text (.plain found) =>
        if Text.dropEndChar '/' found = Text.dropEndChar '/' r.issuer then .ok (given r doc found)
        else .error (.issuerMismatch r.issuer found)
      | .text (.ragged found) => .error (.issuerMismatch r.issuer (.ragged found))
      | _ => .error .issuerNoText := by
  unfold Configuration.ofDocument
  dsimp only
  rw [h.authorization, h.token]
  rfl

/-- A document gives a configuration where it has endpoints and its issuer is the one that was asked
for. -/
theorem ofDocument_eq_ok_iff :
    ofDocument r doc = .ok c ↔
      Equipped doc ∧ ∃ found, Agrees r doc found ∧ c = given r doc found := by
  by_cases equipped : Equipped doc
  · rw [equipped.ofDocument]
    unfold Agrees
    cases documentIssuer r.issuer doc with
    | text found =>
      cases found with
      | plain found =>
        by_cases same : Text.dropEndChar '/' found = Text.dropEndChar '/' r.issuer <;>
          simp [equipped, same, eq_comm]
      | ragged found => simp
    | _ => simp
  · simp [ofDocument_of_not_equipped equipped, equipped]

/-- A document gives neither a configuration nor a fault that is reported exactly where it has
endpoints and its issuer is no text. -/
theorem ofDocument_unreported_iff :
    (∃ fault, ofDocument r doc = .error fault ∧ ¬ fault.IsReported) ↔
      Equipped doc ∧ (documentIssuer r.issuer doc).asText? = none := by
  by_cases equipped : Equipped doc
  · rw [equipped.ofDocument]
    cases documentIssuer r.issuer doc with
    | text found =>
      cases found with
      | plain found =>
        by_cases same : Text.dropEndChar '/' found = Text.dropEndChar '/' r.issuer <;>
          simp [same, Json.asText?, ConfigurationFault.IsReported, ConfigurationFault.message?]
      | ragged found =>
        simp [Json.asText?, ConfigurationFault.IsReported, ConfigurationFault.message?]
    | _ => simp [equipped, Json.asText?, ConfigurationFault.IsReported, ConfigurationFault.message?]
  · simp [ofDocument_of_not_equipped equipped, equipped, ConfigurationFault.IsReported,
      ConfigurationFault.message?]

/-- The issuer of a document is no text only where it names one that is none. -/
theorem documentIssuer_asText?_eq_none_iff {requested : String} :
    (documentIssuer requested doc).asText? = none ↔
      (Fields.get "issuer" doc).isTruthy = true ∧ (Fields.get "issuer" doc).asText? = none := by
  unfold documentIssuer
  dsimp only
  cases named : (Fields.get "issuer" doc).isTruthy <;> simp [Json.asText?]

/-- The check of a configuration with endpoints is one of its client id. -/
theorem check_given {found : String} (equipped : Equipped doc) :
    (given r doc found).check =
      if r.clientId = "" then .error .clientIdMissing else .ok (given r doc found) := by
  have endpoints : (!(given r doc found).authorizationEndpoint.isTruthy ||
      !(given r doc found).tokenEndpoint.isTruthy) = false := by
    rw [given, equipped.authorization, equipped.token]
    rfl
  unfold check
  rw [endpoints]
  by_cases client : r.clientId = "" <;> simp [given, client]

/-! ## Discoveries that end elsewhere -/

/-- A discovery breaks off on an answer: it gives no document, or one whose issuer is no text. -/
inductive BreaksOff (depth : Nat) : Reply → Prop
  | formless {reply : Reply} (h : Formless depth reply) : BreaksOff depth reply
  | issuer {reply : Reply} {doc : Fields} (holds : Holds depth reply doc) (equipped : Equipped doc)
      (named : (Fields.get "issuer" doc).isTruthy = true)
      (noText : (Fields.get "issuer" doc).asText? = none) : BreaksOff depth reply

/-- A discovery is misled by an answer: all in its document is in order, but that an endpoint is no
text. -/
inductive Misleads (depth : Nat) (r : Registration) : Reply → Prop
  | intro {reply : Reply} {doc : Fields} {found : String} (holds : Holds depth reply doc)
      (equipped : Equipped doc) (agrees : Agrees r doc found) (client : r.clientId ≠ "")
      (noText : (Fields.get "authorization_endpoint" doc).asText? = none ∨
        (Fields.get "token_endpoint" doc).asText? = none) : Misleads depth r reply

/-- What a document in order gives serves where its endpoints are texts. -/
theorem serves_given_iff {found : String} (equipped : Equipped doc) (agrees : Agrees r doc found)
    (client : r.clientId ≠ "") :
    Serves r (given r doc found) ↔ (Fields.get "authorization_endpoint" doc).asText? ≠ none ∧
      (Fields.get "token_endpoint" doc).asText? ≠ none := by
  rw [← Json.isFilledText_iff equipped.authorization, ← Json.isFilledText_iff equipped.token]
  exact ⟨fun h => ⟨h.authorization, h.token⟩, fun h => ⟨h.1, h.2, client, agrees.2⟩⟩

/-- **A discovery makes one request,** and ends with what the document in the answer gives, after
its check. -/
theorem discover_eq (depth : Nat) (r : Registration) (replies : List Reply) :
    (discover depth r replies).calls = [.get (discoveryUrl r.issuer)] ∧
      (discover depth r replies).result =
        (document depth (Provider.next replies).1 >>= ofDocument r) >>= check := by
  unfold discover
  change _ ∧ _ = ((document depth (Provider.next replies).1).bind (ofDocument r)).bind check
  dsimp only
  cases (document depth (Provider.next replies).1).bind (ofDocument r) <;> exact ⟨rfl, rfl⟩

/-- A discovery ends with a configuration exactly where a document has endpoints and the issuer that
was asked for, and there is a client id. -/
theorem discover_eq_ok_iff {replies : List Reply} :
    (discover depth r replies).result = .ok c ↔
      ∃ doc found, Holds depth (Provider.next replies).1 doc ∧ Equipped doc ∧ Agrees r doc found ∧
        r.clientId ≠ "" ∧ c = given r doc found := by
  rw [(discover_eq depth r replies).2]
  constructor
  · intro h
    obtain ⟨d, h, checked⟩ := of_bind_eq_ok h
    obtain ⟨doc, read, build⟩ := of_bind_eq_ok h
    obtain ⟨equipped, found, agrees, rfl⟩ := ofDocument_eq_ok_iff.1 build
    rw [check_given equipped] at checked
    split at checked
    · cases checked
    · rename_i client
      exact ⟨doc, found, document_eq_ok_iff.1 read, equipped, agrees, client,
        (Except.ok.inj checked).symm⟩
  · rintro ⟨doc, found, holds, equipped, agrees, client, rfl⟩
    rw [document_eq_ok_iff.2 holds]
    change (ofDocument r doc >>= check) = _
    rw [ofDocument_eq_ok_iff.2 ⟨equipped, found, agrees, rfl⟩]
    exact (check_given equipped).trans (if_neg client)

/-- The check reports what it finds. -/
theorem isReported_of_check (h : c.check = .error fault) : fault.IsReported := by
  unfold check at h
  split at h
  · obtain rfl := Except.error.inj h
    rfl
  · split at h
    · obtain rfl := Except.error.inj h
      rfl
    · cases h

/-- A discovery ends with a fault that is not reported exactly where it breaks off. -/
theorem discover_unreported_iff {replies : List Reply} :
    (∃ fault, (discover depth r replies).result = .error fault ∧ ¬ fault.IsReported) ↔
      BreaksOff depth (Provider.next replies).1 := by
  rw [(discover_eq depth r replies).2]
  generalize (Provider.next replies).1 = reply
  constructor
  · rintro ⟨fault, h, unreported⟩
    obtain h | ⟨d, -, checked⟩ := of_bind_eq_error h
    · obtain read | ⟨doc, read, build⟩ := of_bind_eq_error h
      · exact .formless (document_unreported_iff.1 ⟨fault, read, unreported⟩)
      · obtain ⟨equipped, noText⟩ := ofDocument_unreported_iff.1 ⟨fault, build, unreported⟩
        obtain ⟨named, noText⟩ := documentIssuer_asText?_eq_none_iff.1 noText
        exact .issuer (document_eq_ok_iff.1 read) equipped named noText
    · exact absurd (isReported_of_check checked) unreported
  · intro breaks
    cases breaks with
    | formless formless =>
      obtain ⟨fault, read, unreported⟩ := document_unreported_iff.2 formless
      rw [read]
      exact ⟨fault, rfl, unreported⟩
    | @issuer doc holds equipped named noText =>
      obtain ⟨fault, build, unreported⟩ := ofDocument_unreported_iff.2
        ⟨equipped, documentIssuer_asText?_eq_none_iff.2 ⟨named, noText⟩⟩
      rw [document_eq_ok_iff.2 holds]
      change ∃ fault, (ofDocument r doc >>= check) = _ ∧ _
      rw [build]
      exact ⟨fault, rfl, unreported⟩

/-- A discovery ends with a configuration that does not serve exactly where it is misled. -/
theorem discover_useless_iff {replies : List Reply} :
    (∃ c, (discover depth r replies).result = .ok c ∧ ¬ Serves r c) ↔
      Misleads depth r (Provider.next replies).1 := by
  constructor
  · rintro ⟨c, done, useless⟩
    obtain ⟨doc, found, holds, equipped, agrees, client, rfl⟩ := discover_eq_ok_iff.1 done
    rw [serves_given_iff equipped agrees client, not_and_or, not_not, not_not] at useless
    exact .intro holds equipped agrees client useless
  · rintro ⟨holds, equipped, agrees, client, noText⟩
    refine ⟨_, discover_eq_ok_iff.2 ⟨_, _, holds, equipped, agrees, client, rfl⟩, ?_⟩
    rwa [serves_given_iff equipped agrees client, not_and_or, not_not, not_not]

/-- **A discovery yields a configuration that serves, or a fault that is reported,** unless the
answer is JSON of another shape than a discovery document: it breaks off on one that is nested too
deep, is no object or names an issuer that is no text, and is misled by an endpoint that is none.
Whatever the answer, one request is made, for the document below the issuer.  All this holds for
every depth at which reading gives up. -/
theorem settles_iff_not_breaksOff (depth : Nat) (r : Registration) (replies : List Reply) :
    let d := discover depth r replies
    let reply := (Provider.next replies).1
    d.calls =
        [.get (Text.dropEndChar '/' r.issuer ++ "/.well-known/openid-configuration")] ∧
      (Settles r d.result ↔ ¬ BreaksOff depth reply ∧ ¬ Misleads depth r reply) ∧
      ((∃ fault, d.result = .error fault ∧ ¬ fault.IsReported) ↔ BreaksOff depth reply) ∧
      ((∃ c, d.result = .ok c ∧ ¬ Serves r c) ↔ Misleads depth r reply) := by
  intro d reply
  have unreported : _ ↔ BreaksOff depth reply := discover_unreported_iff (r := r)
  have useless : _ ↔ Misleads depth r reply := discover_useless_iff (r := r)
  refine ⟨(discover_eq depth r replies).1, ?_, unreported, useless⟩
  rw [← unreported, ← useless]
  constructor
  · intro settles
    constructor
    · rintro ⟨fault, done, silent⟩
      change d.result = _ at done
      rw [done] at settles
      cases settles with
      | reported h => exact silent h
    · rintro ⟨c, done, useless⟩
      change d.result = _ at done
      rw [done] at settles
      cases settles with
      | served h => exact useless h
  · rintro ⟨loud, useful⟩
    cases done : d.result with
    | error fault => exact .reported (Classical.not_not.1 fun silent => loud ⟨fault, done, silent⟩)
    | ok c => exact .served (Classical.not_not.1 fun useless => useful ⟨c, done, useless⟩)

/-- A discovery breaks off on a document that is a list. -/
theorem not_settles_of_list :
    ¬ ∀ (depth : Nat) (r : Registration) (replies : List Reply),
      Settles r (discover depth r replies).result := by
  intro claim
  have settles := claim 1 { issuer := "https://idp.example.com", clientId := "my-client" }
    [.response 200 "[]"]
  have done : (discover 1 { issuer := "https://idp.example.com", clientId := "my-client" }
      [.response 200 "[]"]).result = .error .notAnObject := by decide +kernel
  rw [done] at settles
  cases settles with
  | reported h => exact absurd h (by decide)

end Configuration
end LoginGate
