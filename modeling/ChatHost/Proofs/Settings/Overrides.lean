import ChatHost.Proofs.Settings.Sources

set_option autoImplicit false

/-!
Settings that are given on a command line, entry by entry: for what an entry is refused, and which
of the entries for a field counts.
-/

namespace ChatHost

namespace Settings

variable {homes : Path.Homes}

/-- Whether an entry assigns a value to a key: they stand before and behind its first equals sign,
blanks at their ends aside. -/
def Assigns (entry key value : String) : Prop :=
  ∃ front back, entry.toList = front ++ '=' :: back ∧ '=' ∉ front ∧
    key = String.ofList (Text.stripChars front) ∧ value = String.ofList (Text.stripChars back)

/-- Why a text cannot be brought to a kind of field. -/
inductive Unreadable (homes : Path.Homes) (value : String) : Field.Kind → Fault → Prop
  | whole (fault : Fault) (h : Reading.whole value = .error fault) :
      Unreadable homes value .whole fault
  | real (fault : Fault) (h : Reading.real value = .error fault) :
      Unreadable homes value .real fault
  | flag (hyes : word value ∉ trueWords) (hno : word value ∉ falseWords) :
      Unreadable homes value .flag (.invalid s!"Cannot coerce '{value}' to a boolean.")
  | home (h : (Path.ofString value).expand? homes = none) : Unreadable homes value .path .noHome

theorem assigns_iff {entry key value : String} :
    Assigns entry key value ↔ ∃ front back, Text.cutFirst '=' entry.toList = (front, some back) ∧
      key = String.ofList (Text.stripChars front) ∧
      value = String.ofList (Text.stripChars back) := by
  constructor
  · rintro ⟨front, back, hentry, hfront, rfl, rfl⟩
    exact ⟨front, back, hentry ▸ Text.cutFirst_append hfront back, rfl, rfl⟩
  · rintro ⟨front, back, hcut, rfl, rfl⟩
    have hspec := Text.cutFirst_spec '=' entry.toList
    rw [hcut] at hspec
    exact ⟨front, back, hspec.2, hspec.1, rfl, rfl⟩

theorem Assigns.unique {entry key key' value value' : String} (h : Assigns entry key value)
    (h' : Assigns entry key' value') : key = key' ∧ value = value' := by
  obtain ⟨front, back, hcut, rfl, rfl⟩ := assigns_iff.1 h
  obtain ⟨front', back', hcut', rfl, rfl⟩ := assigns_iff.1 h'
  rw [hcut] at hcut'
  cases hcut'
  exact ⟨rfl, rfl⟩

theorem parseOverride_of_assigns {entry key value : String} (h : Assigns entry key value) :
    parseOverride homes entry =
      if key.isEmpty then .error (.invalid "Override is missing a field name.")
      else
        match Field.ofName? key with
        | none => .error (.invalid s!"Unknown setting '{key}'.")
        | some f => (readOverride homes value f.kind).map fun g => (f, g) := by
  obtain ⟨front, back, hcut, rfl, rfl⟩ := assigns_iff.1 h
  unfold parseOverride
  rewrite [hcut]
  rfl

theorem parseOverride_of_field {entry value : String} {f : Field} (h : Assigns entry f.name value) :
    parseOverride homes entry = (readOverride homes value f.kind).map fun g => (f, g) := by
  have hname : ¬ f.name.isEmpty := by cases f <;> decide
  rw [parseOverride_of_assigns h, if_neg hname, Field.ofName?_name]

end Settings

end ChatHost
