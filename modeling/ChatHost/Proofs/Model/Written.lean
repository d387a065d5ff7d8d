import ChatHost.Proofs.Http.Refusal
import ChatHost.Proofs.Model.Policy
import ChatHost.Proofs.Model.Select
import ChatHost.Proofs.Url.Split

set_option autoImplicit false

/-!
The URL that is checked and the URL that is kept. A check reads the cleaned form of a URL, and a
model keeps the URL as it is written: the two agree where cleaning has nothing to take out.
-/

namespace ChatHost

namespace Text

theorem head_stripChars {s : List Char} {c : Char} (h : c ∈ (stripChars s).head?) :
    isBlank c = false := by
  have hprefix : stripChars s <+: stripLeft s := by
    rw [stripChars, stripRight, ← List.reverse_suffix, List.reverse_reverse]
    exact List.dropWhile_suffix _
  have hhead : c ∈ (stripLeft s).head? := by
    obtain ⟨t, ht⟩ := hprefix
    rw [← ht]
    exact List.mem_head?_append_of_mem_head? h
  have hnot := List.head?_dropWhile_not isBlank s
  rw [← stripLeft, Option.mem_def.1 hhead] at hnot
  exact hnot

end Text

namespace Url

theorem IsBare.of_isRemoved {c : Char} (h : isRemoved c) : IsBare c := by
  rcases (isRemoved_iff c).1 h with rfl | rfl | rfl <;> exact ⟨by decide, by decide, by decide⟩

theorem isControl_of_isRemoved {c : Char} (h : isRemoved c) : Model.isControl c := by
  simp [Model.isControl, isRemoved_lt h]

/-- A text that can be sent as it stands is clean, but for a space in front. -/
theorem cleaned_of_sendable {s : List Char} (h : ∀ c ∈ s, Http.IsSendable c)
    (hhead : ∀ c ∈ s.head?, c ≠ ' ') : cleaned s = s := by
  refine (cleaned_eq_self_iff s).2 ⟨fun c hc => ?_, fun c hc => ?_⟩
  · rw [← Bool.not_eq_true]
    exact fun hremoved => Nat.not_lt.2 (h c hc).1 (isRemoved_lt hremoved)
  · refine (h c (List.mem_of_mem_head? hc)).1.lt_of_ne fun hspace => hhead c hc ?_
    exact Char.toNat_inj.1 hspace.symm

end Url

namespace Model

variable {policy : Policy} {url name : List Char}

theorem exists_splitsAs (h : policy.checkUrl url = .ok name) :
    ∃ pre rest parts, Url.SplitsAs url pre rest parts ∧ (∃ port, parts.port = .ok port) ∧
      policy.Accepts parts name := by
  obtain ⟨parts, hsplit, hport, haccepts⟩ := (checkUrl_iff _ _ _).1 h
  obtain ⟨host, hhost, -⟩ := haccepts.host
  have hscheme : parts.scheme ≠ [] := by
    rw [haccepts.scheme]
    decide
  obtain ⟨pre, rest, hsplits⟩ := Url.exists_splitsAs hsplit hscheme (Url.netloc_ne_nil hhost)
  exact ⟨pre, rest, parts, hsplits, hport, haccepts⟩

theorem isLastSegment_cons_slash {path s : List Char} :
    IsLastSegment ('/' :: path) s ↔ IsLastSegment path s := by
  change Text.IsLastFilled _ s ↔ Text.IsLastFilled _ s
  rw [Text.isLastFilled_iff, Text.isLastFilled_iff, Text.pieces_cons_self,
    List.filter_cons_of_neg (by simp)]

theorem IsLastSegment.behind {path s : List Char} (h : IsLastSegment path s) (front : List Char) :
    IsLastSegment (front ++ '/' :: path) s := by
  change Text.IsLastFilled _ s
  rw [Text.pieces_append]
  exact Text.IsLastFilled.append_left h _

/-- The name of an accepted URL's file is the last segment of its cleaned form that is not empty,
and stands behind a slash. -/
theorem exists_lastSegment (h : policy.checkUrl url = .ok name) :
    ∃ front path s, Url.beforeQuery (Url.cleaned url) = front ++ '/' :: path ∧
      IsLastSegment path s ∧ Url.percentDecode s = name := by
  obtain ⟨pre, rest, parts, hsplits, -, haccepts⟩ := exists_splitsAs h
  obtain ⟨⟨front, hfront⟩, hslash⟩ := hsplits.exists_front
  obtain ⟨s, hlast, hname⟩ := haccepts.last
  cases hpath : parts.path with
  | nil =>
    rw [hpath] at hlast
    simpa [Text.pieces] using (Text.isLastFilled_iff _ _).1 hlast
  | cons c path =>
    rw [hpath] at hfront hlast hslash
    obtain rfl := hslash c rfl
    exact ⟨front, path, s, hfront, isLastSegment_cons_slash.1 hlast, hname⟩

/-- Behind what is dropped at the front of a text, the last segment as it is written is the one
that cleaning leaves, unless it holds a character that cleaning takes out. -/
theorem exists_writtenSegment {lead body front path g : List Char} (hlead : '/' ∉ lead)
    (hbody : (body.filter fun c => !Url.isRemoved c) = front ++ '/' :: path)
    (hg : IsLastSegment path g) :
    ∃ s, IsLastSegment (lead ++ body) s ∧ ((∀ c ∈ s, Url.isRemoved c = false) → s = g) := by
  obtain ⟨p, ps, hps⟩ := List.exists_cons_of_ne_nil (Text.pieces_ne_nil '/' body)
  obtain ⟨q, qs, hqs⟩ := List.exists_cons_of_ne_nil (Text.pieces_ne_nil '/' front)
  have hpieces := Text.pieces_filter (c := '/') (fun c => !Url.isRemoved c) rfl body
  rw [hbody, Text.pieces_append, hqs, hps, List.map_cons, List.cons_append] at hpieces
  -- the first piece has no slash in front of it, so the segments are among the others
  obtain ⟨early, late, rfl, -, hlate⟩ := List.map_eq_append_iff.1 (List.cons.inj hpieces).2.symm
  obtain ⟨t, ht, htg⟩ : ∃ t ∈ late, t.filter (fun c => !Url.isRemoved c) = g := by
    obtain ⟨-, before, after, hpath, -⟩ := hg
    rw [hpath] at hlate
    exact List.mem_map.1 (hlate ▸ by simp)
  have hne : t ≠ [] := by
    rintro rfl
    exact hg.1 htg.symm
  obtain ⟨s, hs⟩ := Text.exists_isLastFilled ht hne
  refine ⟨s, ?_, fun hclean => ?_⟩
  · change Text.IsLastFilled _ s
    rw [Text.pieces_append_of_not_mem hlead hps]
    exact hs.append_left ((lead ++ p) :: early)
  · have hkept := hs.map_filter (fun c => !Url.isRemoved c) (by simpa using hclean)
    rw [hlate] at hkept
    exact hkept.unique hg

/-- A URL that names a model is clean if it can be sent: texts name no model by the blanks around a
URL. -/
theorem cleaned_chosen {text address fileName : String}
    (h : choose policy text = .model (.url address fileName))
    (hsendable : ∀ c ∈ address.toList, Http.IsSendable c) :
    Url.cleaned address.toList = address.toList := by
  refine Url.cleaned_of_sendable hsendable fun c hc => ?_
  rw [((choose_eq_url _ _ _ _).1 h).1] at hc
  rintro rfl
  exact absurd (Text.head_stripChars hc) (by decide)

/-- The name of an accepted URL's file is decoded from the last segment of the cleaned URL. The last
segment of the URL as it is written gives the same name, and one without control characters, just
when it holds no character that cleaning takes out. A model keeps the URL as it is written, and no
client that refuses characters that are not sent takes a URL that differs from its cleaned form. -/
theorem checkUrl_written (policy : Policy) (url name : List Char)
    (h : policy.checkUrl url = .ok name) :
    policy.checkUrl (Url.cleaned url) = .ok name ∧
      (∃ s, IsLastSegment (Url.beforeQuery (Url.cleaned url)) s ∧ Url.percentDecode s = name) ∧
      (∀ c ∈ name, isControl c = false) ∧
      (∃ s, IsLastSegment (Url.beforeQuery url) s ∧
        (Url.percentDecode s = name ↔ ∀ c ∈ s, Url.isRemoved c = false) ∧
        ((∀ c ∈ Url.percentDecode s, isControl c = false) ↔ ∀ c ∈ s, Url.isRemoved c = false)) ∧
      (Url.cleaned url = url ↔
        (∀ c ∈ url, Url.isRemoved c = false) ∧ ∀ c ∈ url.head?, 0x20 < c.toNat) ∧
      ∀ text address fileName, choose policy text = .model (.url address fileName) →
        address.toList = url → fileName.toList = name ∧
          (Model.url address fileName).downloadUrl.toList = url ∧
            ∀ rules : Http.Rules, rules.RefusesUnsendable → rules.refusal? address = none →
              Url.cleaned url = url := by
  have hsafe : ∀ c ∈ name, isControl c = false := by
    obtain ⟨-, -, parts, -, -, haccepts⟩ := exists_splitsAs h
    exact fun c hc => (haccepts.safe c hc).2.2
  obtain ⟨front, path, g, hfront, hlast, hname⟩ := exists_lastSegment h
  refine ⟨?_, ?_, hsafe, ?_, Url.cleaned_eq_self_iff url, ?_⟩
  · rw [← h, Policy.checkUrl, Url.split_cleaned, Policy.checkUrl]
  · exact ⟨g, hfront ▸ hlast.behind front, hname⟩
  · have hlead : '/' ∉ url.takeWhile fun c => c.toNat ≤ 0x20 := fun hmem =>
      absurd (List.mem_takeWhile_imp hmem) (by decide)
    obtain ⟨s, hs, hsame⟩ :=
      exists_writtenSegment hlead ((Url.beforeQuery_cleaned url).symm.trans hfront) hlast
    rw [← Url.beforeQuery_eq] at hs
    have hdecoded (hclean : ∀ c ∈ s, Url.isRemoved c = false) : Url.percentDecode s = name := by
      rw [hsame hclean, hname]
    have hclean (hcontrol : ∀ c ∈ Url.percentDecode s, isControl c = false) :
        ∀ c ∈ s, Url.isRemoved c = false := by
      intro c hc
      rw [← Bool.not_eq_true]
      intro hremoved
      have hkept := hcontrol c ((Url.IsBare.of_isRemoved hremoved).mem_percentDecode hc)
      exact absurd (hkept.symm.trans (Url.isControl_of_isRemoved hremoved)) (by decide)
    refine ⟨s, hs, ⟨fun heq => hclean (heq ▸ hsafe), hdecoded⟩, hclean, fun hkept => ?_⟩
    rw [hdecoded hkept]
    exact hsafe
  · intro text address fileName hchoose haddress
    obtain ⟨-, -, hcheck⟩ := (choose_eq_url _ _ _ _).1 hchoose
    rw [haddress, h] at hcheck
    refine ⟨(Except.ok.inj hcheck).symm, haddress, fun rules hrules hsent => ?_⟩
    rw [← haddress]
    exact cleaned_chosen hchoose (hrules address hsent)

theorem checkUrl_written_tab :
    Policy.standard.checkUrl "https://hf.co:443/a%2Fb/c\t%20d.llamafile/?e/f".toList =
        .ok "c d.llamafile".toList ∧
      ∃ s, IsLastSegment
          (Url.beforeQuery "https://hf.co:443/a%2Fb/c\t%20d.llamafile/?e/f".toList) s ∧
        (Url.percentDecode s = "c d.llamafile".toList ↔ ∀ c ∈ s, Url.isRemoved c = false) := by
  have h : Policy.standard.checkUrl "https://hf.co:443/a%2Fb/c\t%20d.llamafile/?e/f".toList =
      .ok "c d.llamafile".toList := by decide +kernel
  obtain ⟨s, hs, hdecoded, -⟩ := (checkUrl_written _ _ _ h).2.2.2.1
  exact ⟨h, s, hs, hdecoded⟩

/-- A URL with a tab in its last segment is kept with it, and accepted with a name without it. -/
theorem unwritten_tab :
    choose .standard "https://hf.co/m\tm.llamafile" =
        .model (.url "https://hf.co/m\tm.llamafile" "mm.llamafile") ∧
      ¬ ∃ s, IsLastSegment (Url.beforeQuery "https://hf.co/m\tm.llamafile".toList) s ∧
        Url.percentDecode s = "mm.llamafile".toList ∧
          ∀ c ∈ Url.percentDecode s, isControl c = false := by
  refine ⟨by decide +kernel, ?_⟩
  rintro ⟨s, hlast, hname, -⟩
  have hpieces := (Text.isLastFilled_iff _ _).1 hlast
  have hs : some s = some "m\tm.llamafile".toList := hpieces.symm.trans (by decide +kernel)
  rw [Option.some.inj hs] at hname
  exact absurd hname (by decide +kernel)

end Model

end ChatHost
