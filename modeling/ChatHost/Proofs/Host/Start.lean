import ChatHost.Proofs.Host.Lane
import ChatHost.Proofs.Host.Parting
import ChatHost.Proofs.Model.Select

set_option autoImplicit false

/-!
Starting a session, to every end that it has: what is asked of the outside on the way there, and
what is left under the handles. A provider is only made for a model that may be used, and one that
cannot be started is shut down.
-/

namespace ChatHost.Host

variable {σ α : Type}

/-- A host after some things have been asked of the outside, in the world to which this has led. -/
def after (h : Host (Noted Event σ)) (asked : List Event) (w : σ) : Host (Noted Event σ) :=
  { h with world := ⟨w, h.world.notes ++ asked⟩ }

theorem after_nil (h : Host (Noted Event σ)) : h.after [] h.world.world = h := by
  simp [after]

theorem after_after (h : Host (Noted Event σ)) (asked more : List Event) (w v : σ) :
    (h.after asked w).after more v = h.after (asked ++ more) v := by
  simp [after, List.append_assoc]

theorem within_noting (e : Event) (a : Act σ α) (h : Host (Noted Event σ)) :
    (within (Noted.noting e a)).Ends h fun r v =>
      r = (a.run h.world.world).result ∧ v = h.after [e] (a.run h.world.world).world :=
  ⟨rfl, rfl⟩

/-- Whether a model may be used, what has been asked to find out, and the world to which this has
led. Of a model at a URL the caller's check is asked, once, with the parts of the URL from which the
model would be downloaded. -/
inductive Consent (check : Option (UrlCheck σ)) (w : σ) :
    Model → Bool → List Event → σ → Prop
  | catalog (entry : CatalogEntry) (quantization : Option String) :
      Consent check w (.catalog entry quantization) true [] w
  | unchecked (address name : String) (hcheck : check = none) :
      Consent check w (.url address name) false [] w
  | checked (address name : String) (c : UrlCheck σ) (hcheck : check = some c) (parts : Url.Parts)
      (hparts : Url.split (Model.url address name).downloadUrl.toList = .ok parts) (answer : Bool)
      (hanswer : ((c parts).run w).result = .ok answer) :
      Consent check w (.url address name) answer [.checked parts] ((c parts).run w).world

def Names (env : Surroundings σ) (model : Input) (name : String) (m : Model) : Prop :=
  model.decode "model name" = .ok name ∧ Model.choose env.policy name = .model m

def making (env : Surroundings σ) (n : Nat) (m : Model) (w : σ) : Outcome σ (Except Fault Unit) :=
  (env.make n m).run w

def starting (env : Surroundings σ) (n : Nat) (m : Model) (w : σ) :
    Outcome σ (Except (Failure ProviderError) Unit) :=
  ((env.provider n).start env.config).run (making env n m w).world

/-- The ends of starting a session: the result, what has been asked of the outside, and the registry
that is left. -/
inductive StartExit (env : Surroundings σ) (model : Input) (check : Option (UrlCheck σ))
    (h : Host (Noted Event σ)) :
    Except (Failure HostError) Handle → List Event → Registry Session → Prop
  /-- The name is no text. -/
  | undecodable (e : HostError) (hdecode : model.decode "model name" = .error e)
      (hkind : e.kind = .notUtf8) : StartExit env model check h (.error (.known e)) [] h.registry
  /-- The name names no model. -/
  | unsupported (name candidate : String) (reason : Model.Rejection)
      (hdecode : model.decode "model name" = .ok name)
      (hchoose : Model.choose env.policy name = .unsupported candidate reason) (e : HostError)
      (hkind : e.kind = .modelNotSupported) :
      StartExit env model check h (.error (.known e)) [] h.registry
  /-- The model may not be used. -/
  | denied (name : String) (m : Model) (hm : Names env model name m) (asked : List Event) (w : σ)
      (hconsent : Consent check h.world.world m false asked w) (e : HostError)
      (hkind : e.kind = .permissionDenied) :
      StartExit env model check h (.error (.known e)) asked h.registry
  /-- The provider cannot be started, and is shut down. -/
  | failed (name : String) (m : Model) (hm : Names env model name m) (asked : List Event) (w : σ)
      (hconsent : Consent check h.world.world m true asked w) (cause : ProviderError)
      (hstart : (starting env h.made m w).result = .error (.known cause)) (e : HostError)
      (hkind : e.kind = .modelInitializationFailed) :
      StartExit env model check h (.error (.known e))
        (asked ++ [.made h.made m, .provider h.made (.start env.config),
          .provider h.made .shutdown]) h.registry
  /-- A new session is put under the next handle. -/
  | started (name : String) (m : Model) (hm : Names env model name m) (asked : List Event) (w : σ)
      (hconsent : Consent check h.world.world m true asked w)
      (hstart : (starting env h.made m w).result = .ok ()) :
      StartExit env model check h (.ok (h.registry.next : Handle))
        (asked ++ [.made h.made m, .provider h.made (.start env.config)])
        (h.registry.insert { modelName := name, provider := h.made }).2

theorem chooseModel_ends (env : Surroundings σ) (name : String) (h : Host σ) :
    (chooseModel env name).Ends h fun r v => v = h ∧
      match Model.choose env.policy name with
      | .model m => r = .ok m
      | .unsupported .. => ∃ e, r = .error (.known e) ∧ e.kind = .modelNotSupported := by
  refine Act.Ends.bind (p := fun _ v => v = h) rfl fun _ v hv => ?_
  subst hv
  cases Model.choose env.policy name with
  | model m => exact ⟨rfl, rfl⟩
  | unsupported candidate reason => exact ⟨rfl, _, rfl, rfl⟩

/-- The URL of a model that has been chosen has parts. -/
theorem exists_parts {policy : Model.Policy} {name address file : String}
    (h : Model.choose policy name = .model (.url address file)) :
    ∃ parts, Url.split (Model.url address file).downloadUrl.toList = .ok parts := by
  obtain ⟨-, -, hcheck⟩ := (Model.choose_eq_url policy name address file).1 h
  obtain ⟨parts, hparts, -⟩ := (Model.checkUrl_iff ..).1 hcheck
  exact ⟨parts, hparts⟩

theorem allowed_ends {env : Surroundings σ} {check : Option (UrlCheck σ)} {name : String}
    {m : Model} (hm : Model.choose env.policy name = .model m)
    (hcheck : ∀ c, check = some c → ∀ parts w, ∃ b, ((c parts).run w).result = .ok b)
    (h : Host (Noted Event σ)) :
    (allowed (noteChecks check) m).Ends h fun r v => ∃ answer asked w, r = .ok answer ∧
      Consent check h.world.world m answer asked w ∧ v = h.after asked w := by
  cases m with
  | catalog entry quantization =>
    exact ⟨true, [], _, rfl, .catalog entry quantization, (after_nil h).symm⟩
  | url address file =>
    obtain ⟨parts, hparts⟩ := exists_parts hm
    have hsplit : Url.split address.toList = .ok parts := hparts
    cases hc : check with
    | none =>
      unfold allowed noteChecks
      dsimp only
      rw [hsplit]
      exact ⟨false, [], _, rfl, .unchecked address file rfl, (after_nil h).symm⟩
    | some c =>
      obtain ⟨b, hb⟩ := hcheck c hc parts h.world.world
      unfold allowed noteChecks
      dsimp only
      rw [hsplit]
      exact ⟨b, [.checked parts], _, hb, .checked address file c rfl parts hparts b hb, rfl⟩

theorem authorize_ends {env : Surroundings σ} {check : Option (UrlCheck σ)} {name : String}
    {m : Model} (hm : Model.choose env.policy name = .model m)
    (hcheck : ∀ c, check = some c → ∀ parts w, ∃ b, ((c parts).run w).result = .ok b)
    (h : Host (Noted Event σ)) :
    (authorize (noteChecks check) m).Ends h fun r v => ∃ answer asked w,
      Consent check h.world.world m answer asked w ∧ v = h.after asked w ∧
        match answer with
        | true => r = .ok ()
        | false => ∃ e, r = .error (.known e) ∧ e.kind = .permissionDenied := by
  refine (allowed_ends hm hcheck h).bind ?_
  rintro r v ⟨answer, asked, w, rfl, hconsent, rfl⟩
  cases answer with
  | true => exact ⟨true, asked, w, hconsent, rfl, rfl⟩
  | false => exact ⟨false, asked, w, hconsent, rfl, _, rfl, rfl⟩

theorem makeProvider_asks {env : Surroundings σ} {m : Model} {h : Host (Noted Event σ)}
    (hmake : (making env h.made m h.world.world).result = .ok ()) :
    (makeProvider env.noted m).Ends h fun r v => r = .ok h.made ∧
      v = { h.after [.made h.made m] (making env h.made m h.world.world).world with
        made := h.made + 1 } := by
  refine Act.Ends.bind (p := fun n v => n = h.made ∧ v = h) ⟨rfl, rfl⟩ ?_
  rintro n v ⟨rfl, rfl⟩
  refine (within_noting _ _ v).bind ?_
  rintro r u ⟨hr, rfl⟩
  cases hr.trans hmake
  exact ⟨rfl, rfl⟩

/-- A provider whose start ends in an error of its own is shut down, once; after a fault it is left
as it is. -/
theorem bringUp_ends (env : Surroundings σ) (n : Nat) (h : Host (Noted Event σ)) :
    (within (Session.bringUp (env.noted.provider n) env.config)).Ends h fun r v =>
      let started := ((env.provider n).start env.config).run h.world.world
      match started.result with
      | .ok () => r = .ok () ∧ v = h.after [.provider n (.start env.config)] started.world
      | .error (.fault f) =>
        r = .error (.fault f) ∧ v = h.after [.provider n (.start env.config)] started.world
      | .error (.known e) =>
        let down := (env.provider n).shutdown.run started.world
        v = h.after [.provider n (.start env.config), .provider n .shutdown] down.world ∧
          match down.result with
          | .error (.fault f) => r = .error (.fault f)
          | _ => r = .error (.known e) := by
  refine (Act.ends_zoom _ _ _ _ _).2 ?_
  refine (Noted.noting_ends (Event.provider n (.start env.config))
    ((env.provider n).start env.config) h.world).bind ?_
  rintro r v ⟨rfl, rfl⟩
  dsimp only
  rcases (((env.provider n).start env.config).run h.world.world).result with (e | f) | ⟨⟩
  · refine (Noted.noting_ends (Event.provider n .shutdown) (env.provider n).shutdown _).bind ?_
    rintro d u ⟨hd, rfl⟩
    dsimp only at hd ⊢
    rw [← hd]
    have hafter := after_after h [.provider n (.start env.config)] [.provider n .shutdown]
      (((env.provider n).start env.config).run h.world.world).world
    rcases d with (late | f) | ⟨⟩
    · exact ⟨hafter _, rfl⟩
    · exact ⟨hafter _, rfl⟩
    · exact ⟨hafter _, rfl⟩
  · exact ⟨rfl, rfl⟩
  · exact ⟨rfl, rfl⟩

/-- The same where neither the start nor the shutdown comes to a fault. -/
theorem bringUp_asks {env : Surroundings σ} {n : Nat} {h : Host (Noted Event σ)}
    (hstart : ∀ f, (((env.provider n).start env.config).run h.world.world).result ≠
      .error (.fault f))
    (hdown : ∀ w f, ((env.provider n).shutdown.run w).result ≠ .error (.fault f)) :
    (within (Session.bringUp (env.noted.provider n) env.config)).Ends h fun r v =>
      r = (((env.provider n).start env.config).run h.world.world).result ∧
        match r with
        | .ok () => ∃ w, v = h.after [.provider n (.start env.config)] w
        | .error _ => ∃ w, v = h.after
            [.provider n (.start env.config), .provider n .shutdown] w := by
  refine (bringUp_ends env n h).imp fun r v hends => ?_
  dsimp only at hends
  cases hr : (((env.provider n).start env.config).run h.world.world).result with
  | ok =>
    rw [hr] at hends
    obtain ⟨rfl, rfl⟩ := hends
    exact ⟨rfl, _, rfl⟩
  | error e =>
    cases e with
    | fault f => exact absurd hr (hstart f)
    | known e =>
      rw [hr] at hends
      obtain ⟨rfl, hr⟩ := hends
      split at hr
      · rename_i f hf
        exact absurd hf (hdown _ f)
      · subst hr
        exact ⟨rfl, _, rfl⟩

theorem decode_kind {input : Input} {what : String} {e : HostError}
    (h : input.decode what = .error e) : e.kind = .notUtf8 := by
  unfold Input.decode at h
  split at h
  · cases h
  · split at h
    · cases h
    · cases h
      rfl

/-- The first half of a start is at one of its ends, or has made a provider for a model that may be
used. -/
theorem beginStart_exits {env : Surroundings σ} {model : Input} {check : Option (UrlCheck σ)}
    (hcheck : ∀ c, check = some c → ∀ parts w, ∃ b, ((c parts).run w).result = .ok b)
    {h : Host (Noted Event σ)} (hmake : ∀ m w, (making env h.made m w).result = .ok ()) :
    (beginStart env.noted model (noteChecks check)).Ends h fun r v =>
      (∃ e asked w, r = .error (.known e) ∧ v = h.after asked w ∧
        StartExit env model check h (.error (.known e)) asked h.registry) ∨
      ∃ name m asked w, r = .ok ⟨name, h.made⟩ ∧ Names env model name m ∧
        Consent check h.world.world m true asked w ∧
        v = { h.after (asked ++ [.made h.made m]) (making env h.made m w).world with
          made := h.made + 1 } := by
  unfold beginStart
  cases hdecode : model.decode "model name" with
  | error e =>
    exact .inl ⟨e, [], _, rfl, (after_nil h).symm, .undecodable e hdecode (decode_kind hdecode)⟩
  | ok name =>
    have hpolicy : env.noted.policy = env.policy := rfl
    refine (chooseModel_ends env.noted name h).bind ?_
    rintro chosen v ⟨rfl, hchosen⟩
    cases hchoose : Model.choose env.policy name with
    | unsupported candidate reason =>
      rw [hpolicy, hchoose] at hchosen
      obtain ⟨e, rfl, hkind⟩ := hchosen
      exact .inl ⟨e, [], _, rfl, (after_nil v).symm,
        .unsupported name candidate reason hdecode hchoose e hkind⟩
    | model m =>
      rw [hpolicy, hchoose] at hchosen
      subst hchosen
      have hm : Names env model name m := ⟨hdecode, hchoose⟩
      refine (authorize_ends hchoose hcheck v).bind ?_
      rintro r u ⟨answer, asked, w, hconsent, rfl, hanswer⟩
      cases answer with
      | false =>
        obtain ⟨e, rfl, hkind⟩ := hanswer
        exact .inl ⟨e, asked, w, rfl, rfl, .denied name m hm asked w hconsent e hkind⟩
      | true =>
        subst hanswer
        refine (makeProvider_asks (h := v.after asked w) (hmake m w)).bind ?_
        rintro r u ⟨rfl, rfl⟩
        exact .inr ⟨name, m, asked, w, rfl, hm, hconsent, by rw [after_after]; rfl⟩

/-- The second half of a start puts a session under the next handle, or leaves all handles as they
are. -/
theorem endStart_exits {env : Surroundings σ} {s : Starting} {h : Host (Noted Event σ)}
    (hstart : ∀ w f,
      (((env.provider s.provider).start env.config).run w).result ≠ .error (.fault f))
    (hdown : ∀ w f, ((env.provider s.provider).shutdown.run w).result ≠ .error (.fault f))
    (hnext : h.registry.next ≤ Registry.lastHandle) :
    (endStart env.noted s).Ends h fun r v => v.leases = h.leases ∧
      (((((env.provider s.provider).start env.config).run h.world.world).result = .ok () ∧
        r = .ok (h.registry.next : Handle) ∧
        v.world.notes = h.world.notes ++ [.provider s.provider (.start env.config)] ∧
        v.registry = (h.registry.insert { modelName := s.name, provider := s.provider }).2) ∨
      ∃ cause, (((env.provider s.provider).start env.config).run h.world.world).result =
          .error (.known cause) ∧
        (∃ e, r = .error (.known e) ∧ e.kind = .modelInitializationFailed) ∧
        v.world.notes = h.world.notes ++
          [.provider s.provider (.start env.config), .provider s.provider .shutdown] ∧
        v.registry = h.registry) := by
  refine (bringUp_asks (hstart _) hdown).bind ?_
  rintro r v ⟨rfl, hv⟩
  cases hr : (((env.provider s.provider).start env.config).run h.world.world).result with
  | ok =>
    rw [hr] at hv
    obtain ⟨w, rfl⟩ := hv
    have hlast : (h.after [.provider s.provider (.start env.config)] w).registry.next ≤
        Registry.lastHandle := hnext
    refine (register_ends _ _).bind ?_
    rintro inserted u ⟨rfl, hinserted⟩
    rw [if_pos hlast] at hinserted
    subst hinserted
    exact ⟨rfl, .inl ⟨rfl, rfl, rfl, rfl⟩⟩
  | error e =>
    rw [hr] at hv
    obtain ⟨w, rfl⟩ := hv
    cases e with
    | fault f => exact absurd hr (hstart _ f)
    | known cause => exact ⟨rfl, .inr ⟨cause, rfl, ⟨_, rfl, rfl⟩, rfl, rfl⟩⟩

/-- A start comes to one of its ends. -/
theorem setModel_exits {env : Surroundings σ} {model : Input} {check : Option (UrlCheck σ)}
    (hcheck : ∀ c, check = some c → ∀ parts w, ∃ b, ((c parts).run w).result = .ok b)
    {h : Host (Noted Event σ)} (hmake : ∀ m w, (making env h.made m w).result = .ok ())
    (hstart : ∀ w f, (((env.provider h.made).start env.config).run w).result ≠ .error (.fault f))
    (hdown : ∀ w f, ((env.provider h.made).shutdown.run w).result ≠ .error (.fault f))
    (hnext : h.registry.next ≤ Registry.lastHandle) :
    (setModel env.noted model (noteChecks check)).Ends h fun r v => v.leases = h.leases ∧
      ∃ asked, v.world.notes = h.world.notes ++ asked ∧
        StartExit env model check h r asked v.registry := by
  refine (beginStart_exits hcheck hmake).bind ?_
  rintro r v (⟨e, asked, w, rfl, rfl, hexit⟩ | ⟨name, m, asked, w, rfl, hm, hconsent, rfl⟩)
  · exact ⟨rfl, asked, rfl, hexit⟩
  · have hend := endStart_exits (s := ⟨name, h.made⟩)
      (h := { h.after (asked ++ [.made h.made m]) (making env h.made m w).world with
        made := h.made + 1 }) hstart hdown hnext
    refine hend.imp ?_
    rintro r v ⟨hleases, ⟨hstarted, rfl, hnotes, hregistry⟩ |
      ⟨cause, hstarted, ⟨e, rfl, hkind⟩, hnotes, hregistry⟩⟩
    · refine ⟨hleases, _, hnotes.trans (List.append_assoc ..), ?_⟩
      rw [hregistry, List.append_assoc]
      exact .started name m hm asked w hconsent hstarted
    · refine ⟨hleases, _, hnotes.trans (List.append_assoc ..), ?_⟩
      rw [hregistry, List.append_assoc]
      exact .failed name m hm asked w hconsent cause hstarted e hkind

def startErrors : List ErrorKind :=
  [.notUtf8, .modelNotSupported, .permissionDenied, .modelInitializationFailed]

variable {env : Surroundings σ} {model : Input} {check : Option (UrlCheck σ)}
  {h : Host (Noted Event σ)} {asked : List Event} {r : Registry Session}

/-- A start that fails does so with an error of one of four kinds, and leaves all that is
registered, and the handle that is next, as it was. -/
theorem StartExit.refused {e : Failure HostError}
    (hexit : StartExit env model check h (.error e) asked r) :
    r = h.registry ∧ ∃ known, e = .known known ∧ known.kind ∈ startErrors := by
  cases hexit with
  | undecodable known _ hkind => exact ⟨rfl, known, rfl, by simp [startErrors, hkind]⟩
  | unsupported _ _ _ _ _ known hkind => exact ⟨rfl, known, rfl, by simp [startErrors, hkind]⟩
  | denied _ _ _ _ _ _ known hkind => exact ⟨rfl, known, rfl, by simp [startErrors, hkind]⟩
  | failed _ _ _ _ _ _ _ _ known hkind => exact ⟨rfl, known, rfl, by simp [startErrors, hkind]⟩

/-- A start that succeeds puts a fresh session under the handle that was next, and leaves the others
as they were. -/
theorem StartExit.given {k : Handle} (hexit : StartExit env model check h (.ok k) asked r)
    (hnext : h.registry.next ≤ Registry.lastHandle) :
    k = h.registry.next ∧
      (∃ name m, Names env model name m ∧
        r.get? k = some { modelName := name, provider := h.made }) ∧
      ∀ j, j ≠ k → r.get? j = h.registry.get? j := by
  cases hexit with
  | started name m hm asked w hconsent hstart =>
    refine ⟨rfl, ⟨name, m, hm, ?_⟩, fun j hj => ?_⟩
    · rw [Registry.get?_insert, if_pos ⟨hnext, rfl⟩]
    · rw [Registry.get?_insert, if_neg fun hlast => hj hlast.2]

end ChatHost.Host

namespace ChatHost.Traffic

open Host (StartExit Names noteChecks)

variable {σ : Type}

/-- A handle that has been in use at an earlier time is below the one that is next. -/
theorem lt_next_of_bound (env : Surroundings σ) (w : σ) {earlier moves : List (Move σ)}
    (hearlier : earlier <+: moves) {j : Handle} {s : Session}
    (hs : (observed env w earlier).host.registry.get? j = some s) :
    j < (observed env w moves).host.registry.next := by
  obtain ⟨rest, rfl⟩ := hearlier
  obtain ⟨phase, hb, hj⟩ := booked_of_registered env w earlier rest hs
  exact hb.issued j s.provider hj

/-- In every state that the traffic on a host comes to, as long as a handle is left, starting a
session comes to one of its ends: with a handle above all that have been in use, which has a fresh
session, or with an error that leaves the sessions and the next handle as they were. Each end tells
all that has been asked of the outside: a provider is made only for a model that is named and may be
used, a check is asked only about a model at a URL, and a provider that cannot be started is shut
down once. -/
theorem setModel_settled (env : Surroundings σ) (w : σ) (before : List (Move σ)) (model : Input)
    (check : Option (UrlCheck σ)) (h : Host (Noted Host.Event σ))
    (hh : (observed env w before).host = h)
    (hcheck : ∀ c, check = some c → ∀ parts v, ∃ b, ((c parts).run v).result = .ok b)
    (hmake : ∀ m v, ((env.make h.made m).run v).result = .ok ())
    (hstart : ∀ v f, (((env.provider h.made).start env.config).run v).result ≠ .error (.fault f))
    (hdown : ∀ v f, ((env.provider h.made).shutdown.run v).result ≠ .error (.fault f))
    (hnext : h.registry.next ≤ Registry.lastHandle) :
    (Host.setModel env.noted model (noteChecks check)).Ends h fun result h' => ∃ asked,
      h'.world.notes = h.world.notes ++ asked ∧ h'.leases = h.leases ∧
      StartExit env model check h result asked h'.registry ∧
      (∀ e, result = .error e → h'.registry = h.registry ∧
        ∃ known, e = .known known ∧ known.kind ∈ Host.startErrors) ∧
      ∀ k, result = .ok k →
        (∀ earlier, earlier <+: before → ∀ j s,
          (observed env w earlier).host.registry.get? j = some s → j < k) ∧
        (∃ name m, Names env model name m ∧
          h'.registry.get? k = some { modelName := name, provider := h.made }) ∧
        ∀ j, j ≠ k → h'.registry.get? j = h.registry.get? j := by
  refine (Host.setModel_exits hcheck hmake hstart hdown hnext).imp ?_
  rintro result h' ⟨hleases, asked, hnotes, hexit⟩
  refine ⟨asked, hnotes, hleases, hexit, ?_, ?_⟩
  · rintro e rfl
    exact hexit.refused
  · rintro k rfl
    obtain ⟨rfl, hsession, hothers⟩ := hexit.given hnext
    refine ⟨fun earlier hearlier j s hs => ?_, hsession, hothers⟩
    rw [← hh]
    exact lt_next_of_bound env w hearlier hs

/-- Surroundings in which providers are made, and of which only the first can be started. -/
def oneServer : Surroundings Unit where
  today := return ⟨2025, 1, 31⟩
  validator := Schema.validator
  transport :=
    { connect := fun _ => return .error (.outside .connection "refused")
      list := fun _ => return .ok []
      call := fun _ _ _ => return .ok .null
      close := fun _ => return .ok () }
  make _ _ := return .ok ()
  provider n :=
    { start := fun _ => return if n = 0 then .ok () else .error (.known ⟨.server, "no port"⟩)
      ask := fun _ => return ()
      answer := fun _ => return .error (.known ⟨.communication, "closed"⟩)
      shutdown := return .ok () }

def firstStart : List (Move Unit) :=
  [.ask (.setModel (.text "gemma-2-2b-it") none), .resume 0]

theorem setModel_settled_second :
    ((observed oneServer () firstStart).host.registry.get? 1).isSome ∧
      ∃ e asked r, e.kind = .modelInitializationFailed ∧ r.next = 2 ∧
        StartExit oneServer (.text "https://hf.co/a/b.llamafile") (some fun _ => return .ok true)
          (observed oneServer () firstStart).host (.error (.known e)) asked r := by
  have hbound : ((observed oneServer () firstStart).host.registry.get? 1).isSome := by
    decide +kernel
  have hnext : (observed oneServer () firstStart).host.registry.next = 2 := by decide +kernel
  have hmade : (observed oneServer () firstStart).host.made = 1 := by decide +kernel
  have hresult : ((Host.setModel oneServer.noted (.text "https://hf.co/a/b.llamafile")
      (noteChecks (some fun _ => return .ok true))).run
        (observed oneServer () firstStart).host).result =
          .error (.known ⟨.modelInitializationFailed, "no port",
            some (.provider ⟨.server, "no port"⟩)⟩) := by
    decide +kernel
  obtain ⟨asked, -, -, hexit, hrefused, -⟩ := setModel_settled oneServer () firstStart
    (.text "https://hf.co/a/b.llamafile") (some fun _ => return .ok true) _ rfl
    (fun c hc parts v => by cases hc; exact ⟨true, rfl⟩) (fun _ _ => rfl)
    (fun v f hf => by rw [hmade] at hf; cases hf) (fun _ _ hf => by cases hf)
    (by rw [hnext]; decide)
  rw [hresult] at hexit
  exact ⟨hbound, _, asked, _, rfl, by rw [(hrefused _ hresult).1, hnext], hexit⟩

end ChatHost.Traffic
