import ChatHost.Model.Policy
import ChatHost.Proofs.Text.Cut
import ChatHost.Proofs.Url.Percent

set_option autoImplicit false

/-!
The URLs that a policy accepts: the check of a URL succeeds just when its parts have a list of
properties, and gives the name of its file.
-/

namespace ChatHost

namespace Url

theorem lowerChars_ne_nil {s : List Char} (h : s ≠ []) : Text.lowerChars s ≠ [] := by
  cases s with
  | nil => exact absurd rfl h
  | cons c s =>
    rw [Text.lowerChars, Text.lowerAfter, Text.lowerChar]
    split_ifs <;> simp

/-- A URL that has a host has one that is not empty. -/
theorem hostname_ne_nil {p : Parts} {host : List Char} (h : p.hostname = some host) :
    host ≠ [] := by
  rw [Parts.hostname] at h
  split at h
  · cases h
  · rename_i hname
    have hcut := (Text.cutFirst_spec '%' p.hostAndPort.1).2
    generalize Text.cutFirst '%' p.hostAndPort.1 = cut at h hcut
    obtain ⟨before, zone⟩ := cut
    obtain rfl := Option.some.inj h
    cases zone with
    | some zone => simp
    | none =>
      simp only [Option.map_none, Option.getD_none, List.append_nil] at hcut ⊢
      exact lowerChars_ne_nil fun hnil => hname (hcut.trans hnil)

end Url

namespace Model

/-- Whether a segment of a path is its last one that is not empty. -/
def IsLastSegment (path s : List Char) : Prop :=
  s ≠ [] ∧ ∃ before after, Text.pieces '/' path = before ++ s :: after ∧ ∀ t ∈ after, t = []

/-- Whether the labels of a host, dots at its end aside, end with all those of an allowed one. -/
def Policy.AllowsHost (policy : Policy) (host : List Char) : Prop :=
  ∃ allowed ∈ policy.hosts, Text.pieces '.' (Text.lowerChars allowed.toList) <:+
    Text.pieces '.' (dropFinalDots (Text.lowerChars host))

/-- What the parts of a URL have to be for a policy to accept it with a file name. -/
structure Policy.Accepts (policy : Policy) (parts : Url.Parts) (name : List Char) : Prop where
  scheme : parts.scheme = "https".toList
  username : parts.username = none
  password : parts.password = none
  host : ∃ host, parts.hostname = some host ∧ host ≠ [] ∧ policy.AllowsHost host
  segments (s : List Char) : s ∈ Text.pieces '/' parts.path →
    Url.percentDecode s ≠ ['.'] ∧ Url.percentDecode s ≠ ['.', '.']
  path : ¬ ['.', '.'] <:+: Url.percentDecode parts.path
  last : ∃ s, IsLastSegment parts.path s ∧ Url.percentDecode s = name
  extension : ∃ e ∈ policy.extensions, Text.lowerChars e.toList <:+ Text.lowerChars name
  safe (c : Char) : c ∈ name → c ≠ '/' ∧ c ≠ '\\' ∧ isControl c = false

theorem hostAllowed_iff (policy : Policy) (host : List Char) :
    hostAllowed policy.hosts host ↔ policy.AllowsHost host := by
  simp only [hostAllowed, List.any_eq_true, Policy.AllowsHost, Text.pieces_suffix, Bool.or_eq_true,
    beq_iff_eq, Text.endsWith_iff]

theorem hasDoubleDot_iff (s : List Char) : hasDoubleDot s ↔ ['.', '.'] <:+: s := by
  fun_induction hasDoubleDot s with
  | case1 rest => exact iff_of_true rfl ⟨[], rest, rfl⟩
  | case2 c rest hne ih =>
    rw [ih, List.infix_cons_iff]
    refine (or_iff_right ?_).symm
    rintro ⟨t, ht⟩
    obtain ⟨hc, hrest⟩ := List.cons.inj ht
    exact hne t hc.symm hrest.symm
  | case3 => simp

theorem isTraversal_iff (path : List Char) :
    isTraversal path (pathSegments path) = false ↔
      (∀ s ∈ Text.pieces '/' path,
        Url.percentDecode s ≠ ['.'] ∧ Url.percentDecode s ≠ ['.', '.']) ∧
        ¬ ['.', '.'] <:+: Url.percentDecode path := by
  rw [isTraversal, Bool.or_eq_false_iff, ← Bool.not_eq_true (hasDoubleDot _), hasDoubleDot_iff]
  refine and_congr_left fun _ => ?_
  rw [List.any_eq_false, pathSegments]
  constructor
  · intro h s hs
    by_cases hnil : s = []
    · rw [hnil, Url.percentDecode_nil]
      decide
    · have hdecoded := h (Url.percentDecode s)
        (List.mem_map_of_mem (List.mem_filter.2 ⟨hs, by simpa using hnil⟩))
      simpa [and_comm] using hdecoded
  · intro h t ht
    obtain ⟨s, hs, rfl⟩ := List.mem_map.1 ht
    have hdecoded := h s (List.mem_of_mem_filter hs)
    simpa [and_comm] using hdecoded

theorem getLast?_pathSegments (path name : List Char) :
    (pathSegments path).getLast? = some name ↔
      ∃ s, IsLastSegment path s ∧ Url.percentDecode s = name := by
  rw [pathSegments, List.getLast?_map, Option.map_eq_some_iff]
  exact exists_congr fun s => and_congr_left fun _ => (Text.isLastFilled_iff _ s).symm

theorem extensionAllowed_iff (extensions : List String) (name : List Char) :
    extensionAllowed extensions name ↔
      ∃ e ∈ extensions, Text.lowerChars e.toList <:+ Text.lowerChars name := by
  simp only [extensionAllowed, List.any_eq_true, Text.endsWith_iff]

theorem safe_iff (name : List Char) :
    name.any isUnsafeInName = false ↔ ∀ c ∈ name, c ≠ '/' ∧ c ≠ '\\' ∧ isControl c = false := by
  simp only [List.any_eq_false, isUnsafeInName, Bool.or_eq_true, beq_iff_eq, not_or,
    Bool.not_eq_true, and_assoc]

theorem checkParts_iff (policy : Policy) (parts : Url.Parts) (name : List Char) :
    policy.checkParts parts = .ok name ↔ policy.Accepts parts name := by
  constructor
  · intro h
    rw [Policy.checkParts] at h
    -- each check that fails ends in an error, so all of them have succeeded
    split at h
    · cases h
    rename_i hscheme
    split at h
    swap
    · cases h
    rename_i host hhost huser hpassword
    split at h
    · cases h
    rename_i hallowed
    dsimp only at h
    split at h
    · cases h
    rename_i fileName hlast
    split at h
    · cases h
    rename_i htraversal
    split at h
    · cases h
    rename_i hextension
    split at h
    · cases h
    rename_i hsafe
    obtain rfl := Except.ok.inj h
    obtain ⟨hsegments, hpath⟩ := (isTraversal_iff parts.path).1 (by simpa using htraversal)
    exact {
      scheme := by simpa using hscheme
      username := huser
      password := hpassword
      host := ⟨host, hhost, Url.hostname_ne_nil hhost,
        (hostAllowed_iff policy host).1 (by simpa using hallowed)⟩
      segments := hsegments
      path := hpath
      last := (getLast?_pathSegments _ _).1 hlast
      extension := (extensionAllowed_iff _ _).1 (by simpa using hextension)
      safe := (safe_iff _).1 (by simpa using hsafe) }
  · rintro ⟨hscheme, huser, hpassword, ⟨host, hhost, -, hallowed⟩, hsegments, hpath, hlast,
      hextension, hsafe⟩
    have htraversal := (isTraversal_iff parts.path).2 ⟨hsegments, hpath⟩
    rw [← hostAllowed_iff] at hallowed
    rw [← getLast?_pathSegments] at hlast
    rw [← extensionAllowed_iff] at hextension
    rw [← safe_iff] at hsafe
    simp [Policy.checkParts, hscheme, huser, hpassword, hhost, hallowed, hlast, htraversal,
      hextension, hsafe]

/-- A URL is accepted with a file name just when it is one, with a port that can be one, and its
parts are acceptable. -/
theorem checkUrl_iff (policy : Policy) (url name : List Char) :
    policy.checkUrl url = .ok name ↔ ∃ parts, Url.split url = .ok parts ∧
      (∃ port, parts.port = .ok port) ∧ policy.Accepts parts name := by
  rw [Policy.checkUrl]
  cases Url.split url with
  | error e => simp
  | ok parts =>
    cases hport : parts.port with
    | error e => simp [hport]
    | ok port => simp [hport, checkParts_iff]

end Model

end ChatHost
