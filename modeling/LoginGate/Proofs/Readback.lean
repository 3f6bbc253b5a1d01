/-
# What is sent out is read as it was meant

Two texts leave the gate in the form of pairs: the query of a challenge, which the provider reads,
and the body of a request that was put back, which the application reads.  Neither can be read as
anything else, whatever characters the names and values hold.

| text | is read as | theorem |
| --- | --- | --- |
| the query of a challenge | five parameters in order | `Gate.pairs_of_challengeUrl` |
| a form as the body | the form, if it is well-formed | `Form.ofOctets_withForm_iff` |
-/

import LoginGate.Proofs.Passage
import LoginGate.Proofs.Responses

namespace LoginGate

/-! ## The query of a challenge -/

/-- The token is a text unless the session holds something else as its token. -/
theorem Csrf.token_ensure_isSome_iff (tokens : Supply) (s : Session) :
    (ensure tokens s).token.text?.isSome ↔ ∀ token, token? s = some token → token.text?.isSome := by
  unfold ensure
  split
  · rename_i token held
    simp [held]
  · rename_i none
    simp [none]

namespace Gate

variable {g : Gate} {v : Visit} {n : Serial} {a : Session} {url : WideText}

/-- An address for a challenge is made exactly of a token that is a text and an endpoint that can
have a query. -/
theorem challengeUrl_eq_ok_iff (there : v.world.store.session? n = some a) :
    ((g.challengeUrl n).on v).1 = .ok url ↔
      ∃ token, (Csrf.ensure v.world.tokens a).token.text? = some token ∧
        Challenge.url? g.provider v.request token = some url := by
  obtain ⟨log, built⟩ := on_challengeUrl g n v v.log
  rw [Visit.session_of_session? there] at built
  rw [built]
  cases (Csrf.ensure v.world.tokens a).token.text? with
  | none => simp
  | some token =>
    simp only [Option.some.injEq, exists_eq_left']
    cases Challenge.url? g.provider v.request token <;> simp

/-- Making the address leaves the token in the session. -/
theorem session?_challengeUrl (there : v.world.store.session? n = some a) :
    ((g.challengeUrl n).on v).2.world.store.session? n =
      some (Csrf.ensure v.world.tokens a).session := by
  obtain ⟨log, built⟩ := on_challengeUrl g n v v.log
  rw [Visit.session_of_session? there] at built
  rw [built]
  exact SessionStore.session?_modify_self there

/-- **What the provider reads in a challenge.**  An address for a challenge in a session is the
endpoint of the provider with a query behind it, in which the client, the callback address, the
scopes, the token of the session and the kind of the answer are read, each as it is, in this order
and nothing beside them.  There is such an address exactly if the endpoint can have a query and the
session does not hold something else than a text as its token. -/
theorem pairs_of_challengeUrl (g : Gate) (v : Visit) (there : v.world.store.session? n = some a) :
    (∀ url, ((g.challengeUrl n).on v).1 = .ok url →
      ∃ query b token, Challenge.Appends g.provider url query ∧
        ((g.challengeUrl n).on v).2.world.store.session? n = some b ∧
        b.csrfToken = some (.text token) ∧
        Form.pairs query =
          [("client_id", g.provider.clientId), ("redirect_uri", v.request.callbackUrl),
            ("scope", Challenge.scope g.provider), ("state", token), ("response_type", "code")]) ∧
      ((∃ url, ((g.challengeUrl n).on v).1 = .ok url) ↔
        (Challenge.hasQuery? g.provider.authorizationEndpoint).isSome ∧
          ∀ token, Csrf.token? a = some token → token.text?.isSome) := by
  rw [← Csrf.token_ensure_isSome_iff v.world.tokens a]
  simp only [challengeUrl_eq_ok_iff there]
  refine ⟨fun url ⟨token, shown, address⟩ => ?_, ?_, fun ⟨searched, texts⟩ => ?_⟩
  · refine ⟨_, _, token, Challenge.appends_of_url? address, session?_challengeUrl there, ?_,
      Challenge.pairs_query ..⟩
    rw [Csrf.csrfToken_ensure, Attribute.eq_text_of_text? shown]
  · rintro ⟨url, token, shown, address⟩
    obtain ⟨has, searched, -⟩ := Challenge.appends_of_url? address
    rw [searched, shown]
    exact ⟨rfl, rfl⟩
  · obtain ⟨token, shown⟩ := Option.isSome_iff_exists.1 texts
    have found : (Challenge.url? g.provider v.request token).isSome :=
      Option.isSome_map.trans searched
    obtain ⟨url, address⟩ := Option.isSome_iff_exists.1 found
    exact ⟨url, token, shown, address⟩

/-- A client and an endpoint with marks of their own are told apart from those of the query. -/
theorem pairs_of_challengeUrl_small :
    let g := smallGate true
    let g : Gate :=
      { g with provider :=
          { g.provider with
            authorizationEndpoint := .text "https://idp/auth?tenant=x"
            clientId := "a b&state=%2B+é" } }
    let begun : Event := .call (.validate true) (smallRequest "/page" "" none) .fresh
    let v : Visit :=
      { world := g.run (smallWorld none) [begun]
        request := smallRequest "/page" "" (some "first") }
    (v.world.store.session? 0).isSome ∧
      ∃ query : String,
        ((g.challengeUrl 0).on v).1 = .ok ("https://idp/auth?tenant=x&" ++ query : String) ∧
        Form.pairs query =
          [("client_id", "a b&state=%2B+é"), ("redirect_uri", "http://app/j_security_check"),
            ("scope", "openid"), ("state", "token"), ("response_type", "code")] := by
  intro g g begun v
  have there : (v.world.store.session? 0).isSome := by decide +kernel
  have before : (v.world.store.session? 0).bind Csrf.token? = some (.text "token") := by
    decide +kernel
  have after : (((g.challengeUrl 0).on v).2.world.store.session? 0).bind Session.csrfToken =
      some (.text "token") := by decide +kernel
  obtain ⟨a, held⟩ := Option.isSome_iff_exists.1 there
  obtain ⟨read, made⟩ := pairs_of_challengeUrl g v held
  have texts : ∀ token, Csrf.token? a = some token → token.text?.isSome := by
    rw [held, Option.bind_some] at before
    rw [before]
    intro token same
    obtain rfl := Option.some.inj same
    rfl
  obtain ⟨url, done⟩ := made.2 ⟨rfl, texts⟩
  obtain ⟨query, b, token, ⟨has, searched, rfl⟩, kept, own, pairs⟩ := read url done
  rw [kept, Option.bind_some, own] at after
  obtain rfl : token = "token" := by cases after; rfl
  have marked : Challenge.hasQuery? g.provider.authorizationEndpoint = some true := by
    decide +kernel
  obtain rfl := Option.some.inj (searched.symm.trans marked)
  refine ⟨there, query, done, pairs.trans ?_⟩
  decide +kernel

end Gate

/-! ## A form as the body -/

namespace Form

/-- **What the application reads in a form that is put back:** the form, exactly if no name stands
twice in it and none is without a value.  Every body is read as such a form, so that reading what
was read and written again changes nothing. -/
theorem ofOctets_withForm_iff (i : Inbound) (f : Form) (b : Octets) :
    (ofOctets (i.withForm f).body = f ↔ f.WellFormed) ∧ (ofOctets b).WellFormed ∧
      ofOctets (i.withForm (ofOctets b)).body = ofOctets b := by
  have read (b : Octets) : (ofOctets b).WellFormed := wellFormed_ofPairs _
  rw [Inbound.body_withForm, Inbound.body_withForm]
  exact ⟨⟨fun same => same ▸ read _, ofOctets_encode_write⟩, read b,
    ofOctets_encode_write (read b)⟩

end Form
end LoginGate
