import ChatHost.Cli.Run
import ChatHost.Proofs.Agree
import ChatHost.Proofs.Text.Cut
import Mathlib.Data.List.Forall2

set_option autoImplicit false

/-!
The dialogue of a command line with a session: which of the lines that are put in become prompts,
and what is written around them. It is told as the deeds that lead from one host to the next.
-/

namespace ChatHost

namespace Text

/-- The lines that make up a text, each with its line end, which may be missing behind the last. -/
inductive AreLines : List (List Char) → List Char → Prop
  | nil : AreLines [] []
  | final (line : List Char) (hline : line ≠ []) (hfree : '\n' ∉ line) : AreLines [line] line
  | cons (line : List Char) (hfree : '\n' ∉ line) (lines : List (List Char)) (rest : List Char)
      (h : AreLines lines rest) : AreLines ((line ++ ['\n']) :: lines) (line ++ '\n' :: rest)

theorem readLine_of_not_mem {line : List Char} (h : '\n' ∉ line) : readLine line = (line, []) := by
  rw [readLine, cutFirst_of_not_mem h]

theorem readLine_append {line : List Char} (h : '\n' ∉ line) (rest : List Char) :
    readLine (line ++ '\n' :: rest) = (line ++ ['\n'], rest) := by
  rw [readLine, cutFirst_append h]

/-- Every text is made up of lines. -/
theorem exists_areLines (s : List Char) : ∃ lines, AreLines lines s := by
  induction hn : s.length using Nat.strong_induction_on generalizing s with
  | _ n ih =>
    obtain ⟨hfree, hs⟩ := cutFirst_spec '\n' s
    cases hrest : (cutFirst '\n' s).2 with
    | none =>
      rw [hrest, Option.map_none, Option.getD_none, List.append_nil] at hs
      by_cases hnil : s = []
      · exact hnil ▸ ⟨[], .nil⟩
      · exact ⟨[s], .final s hnil (hs ▸ hfree)⟩
    | some rest =>
      obtain ⟨lines, hlines⟩ := ih rest.length (hn ▸ length_cutFirst_lt hrest) rest rfl
      rw [hrest, Option.map_some, Option.getD_some] at hs
      rw [hs]
      exact ⟨_, .cons _ hfree lines rest hlines⟩

end Text

namespace Cli

/-- Something that the chat command does, with what comes of it. -/
inductive Deed where
  | writes (text : String) (result : Except Fault Unit)
  | takes (result : Except Fault String)
  | starts (model : String) (result : Except (Failure HostError) Handle)
  | configures (handle : Handle) (options : Options) (result : Except (Failure HostError) Unit)
  | prompts (handle : Handle) (text : String) (result : Except (Failure HostError) Unit)
  | reads (handle : Handle) (result : Except (Failure HostError) String)
  | closes (handle : Handle) (result : Except (Failure HostError) Unit)

variable {σ : Type} {sys : System σ} {env : Surroundings σ} {handle : Handle}

/-- Whether a deed leads from one host to another. What is written goes out as it is, and neither
this nor waiting for a line touches anything of a host but the world that it is in. -/
def Deed.Leads (sys : System σ) (env : Surroundings σ) (h v : Host σ) : Deed → Prop
  | .writes text result =>
    (sys.print text).Ends h.world fun r w => r = result ∧ v = { h with world := w }
  | .takes result =>
    sys.await.Ends h.world fun r w => r = result.map (fun _ => ()) ∧ v = { h with world := w }
  | .starts model result =>
    (sys.logged (Host.setModel env (.text model) (some System.allowUrl))).Ends h fun r u =>
      r = result ∧ u = v
  | .configures handle options result =>
    (sys.logged (Host.setOptions env handle (.given options))).Ends h fun r u =>
      r = result ∧ u = v
  | .prompts handle text result =>
    (sys.logged (Host.prompt handle (.text text))).Ends h fun r u => r = result ∧ u = v
  | .reads handle result =>
    (sys.logged (Host.readResponse env handle)).Ends h fun r u => r = result ∧ u = v
  | .closes handle result =>
    (sys.logged (Host.close env handle)).Ends h fun r u => r = result ∧ u = v

inductive Led (sys : System σ) (env : Surroundings σ) : List Deed → Host σ → Host σ → Prop
  | nil (h : Host σ) : Led sys env [] h h
  | cons {d : Deed} {deeds : List Deed} {h v w : Host σ} (hd : d.Leads sys env h v)
      (hdeeds : Led sys env deeds v w) : Led sys env (d :: deeds) h w

theorem Led.append {before after : List Deed} {h v w : Host σ} (hbefore : Led sys env before h v)
    (hafter : Led sys env after v w) : Led sys env (before ++ after) h w := by
  induction hbefore with
  | nil => exact hafter
  | cons hd _ ih => exact .cons hd (ih hafter)

/-- What is done to get a line: it is asked for and waited for. A failure of the terminal ends it
where it happens. -/
inductive Asked (line : String) : List Deed → Except Fault Unit → Prop
  | taken : Asked line [.writes "> " (.ok ()), .takes (.ok line)] (.ok ())
  | untaken (f : Fault) : Asked line [.writes "> " (.ok ()), .takes (.error f)] (.error f)
  | unwritten (f : Fault) : Asked line [.writes "> " (.error f)] (.error f)

/-- What is done with a text that is said: it is sent as a prompt, the reply is read, and written on
a line. An error ends it where it happens. -/
inductive Told (handle : Handle) (text : String) :
    List Deed → Except (Failure HostError) Unit → Prop
  | answered (reply : String) (written : Except Fault Unit) : Told handle text
      [.prompts handle text (.ok ()), .reads handle (.ok reply), .writes s!"{reply}\n" written]
      (written.mapError .fault)
  | unanswered (e : Failure HostError) : Told handle text
      [.prompts handle text (.ok ()), .reads handle (.error e)] (.error e)
  | unheard (e : Failure HostError) : Told handle text
      [.prompts handle text (.error e)] (.error e)

/-- What is done for a line that does not end the conversation: it is asked for, and told without
the blanks at its ends unless nothing is left of it. -/
inductive Exchange (handle : Handle) (line : String) :
    List Deed → Except (Failure HostError) Unit → Prop
  | unasked (f : Fault) (deeds : List Deed) (h : Asked line deeds (.error f)) :
      Exchange handle line deeds (.error (.fault f))
  | blank (hblank : Text.strip line = "") (deeds : List Deed) (h : Asked line deeds (.ok ())) :
      Exchange handle line deeds (.ok ())
  | told (htext : Text.strip line ≠ "") (asked deeds : List Deed)
      (hasked : Asked line asked (.ok ()))
      (result : Except (Failure HostError) Unit) (h : Told handle (Text.strip line) deeds result) :
      Exchange handle line (asked ++ deeds) result

def leaves (line : String) : Bool :=
  System.exitWords.contains (Text.strip line)

/-- The lines before the first one that ends the conversation. -/
def heard (lines : List String) : List String :=
  lines.takeWhile fun line => !leaves line

/-- The first line that ends the conversation, or the empty text that is read behind the last
line. -/
def closing (lines : List String) : String :=
  ((lines.dropWhile fun line => !leaves line).head?).getD ""

/-- What is done with some lines: an exchange for each that is heard, up to the first that comes to
an error. After the last one, the line is asked for that ends the conversation. -/
inductive Transcript (handle : Handle) (lines : List String) :
    List Deed → Except (Failure HostError) Unit → Prop
  | whole (exchanges : List (List Deed))
      (h : List.Forall₂ (fun line deeds => Exchange handle line deeds (.ok ())) (heard lines)
        exchanges)
      (last : List Deed) (result : Except Fault Unit) (hlast : Asked (closing lines) last result) :
      Transcript handle lines (exchanges.flatten ++ last) (result.mapError .fault)
  | broken (before after : List String) (line : String)
      (hlines : heard lines = before ++ line :: after) (exchanges : List (List Deed))
      (h : List.Forall₂ (fun line deeds => Exchange handle line deeds (.ok ())) before exchanges)
      (last : List Deed) (e : Failure HostError) (hlast : Exchange handle line last (.error e)) :
      Transcript handle lines (exchanges.flatten ++ last) (.error e)

theorem heard_cons {line : String} (h : ¬leaves line) (lines : List String) :
    heard (line :: lines) = line :: heard lines :=
  List.takeWhile_cons_of_pos (by simpa using h)

theorem heard_cons_of_leaves {line : String} (h : leaves line) (lines : List String) :
    heard (line :: lines) = [] :=
  List.takeWhile_cons_of_neg (by simpa using h)

theorem closing_cons {line : String} (h : ¬leaves line) (lines : List String) :
    closing (line :: lines) = closing lines := by
  rw [closing, List.dropWhile_cons_of_pos (by simpa using h), closing]

theorem closing_cons_of_leaves {line : String} (h : leaves line) (lines : List String) :
    closing (line :: lines) = line := by
  rw [closing, List.dropWhile_cons_of_neg (by simpa using h)]
  rfl

theorem Transcript.cons {line : String} {lines : List String} (hline : ¬leaves line)
    {first deeds : List Deed} {result : Except (Failure HostError) Unit}
    (hfirst : Exchange handle line first (.ok ())) (h : Transcript handle lines deeds result) :
    Transcript handle (line :: lines) (first ++ deeds) result := by
  have hheard := heard_cons hline lines
  cases h with
  | whole exchanges hall last result hlast =>
    rw [← List.append_assoc, ← List.flatten_cons]
    exact .whole (first :: exchanges) (hheard ▸ .cons hfirst hall) last result
      ((closing_cons hline lines).symm ▸ hlast)
  | broken before after line' hlines exchanges hall last e hlast =>
    rw [← List.append_assoc, ← List.flatten_cons]
    exact .broken (line :: before) after line' (by rw [hheard, hlines, List.cons_append])
      (first :: exchanges) (.cons hfirst hall) last e hlast

theorem Transcript.first {line : String} {lines : List String} (hline : ¬leaves line)
    {deeds : List Deed} {e : Failure HostError} (h : Exchange handle line deeds (.error e)) :
    Transcript handle (line :: lines) deeds (.error e) :=
  .broken [] (heard lines) line (heard_cons hline lines) [] .nil deeds e h

theorem Transcript.close {lines : List String} (hheard : heard lines = []) {deeds : List Deed}
    (result : Except Fault Unit) (h : Asked (closing lines) deeds result) :
    Transcript handle lines deeds (result.mapError .fault) :=
  .whole [] (hheard ▸ .nil) deeds result h

/-! ### The steps -/

theorem ends_terminal (a : Act σ (Except Fault Unit)) (h : Host σ) :
    (System.terminal a).Ends h fun result v => ∃ r, result = r.mapError .fault ∧
      a.Ends h.world fun r' w => r' = r ∧ v = { h with world := w } :=
  ⟨_, rfl, rfl, rfl⟩

theorem turn_told (sys : System σ) (env : Surroundings σ) (handle : Handle) (text : String)
    (h : Host σ) :
    (sys.turn env handle text).Ends h fun result v =>
      ∃ deeds, Told handle text deeds result ∧ Led sys env deeds h v := by
  refine Act.Ends.andThen (p := fun r v => (Deed.prompts handle text r).Leads sys env h v)
    ⟨rfl, rfl⟩ (fun _ v hprompt => ?_) fun e v hprompt => ?_
  · refine Act.Ends.andThen (p := fun r u => (Deed.reads handle r).Leads sys env v u)
      ⟨rfl, rfl⟩ (fun reply u hread => ?_) fun e u hread => ?_
    · refine (ends_terminal (sys.print s!"{reply}\n") u).imp ?_
      rintro result x ⟨written, rfl, hwritten⟩
      exact ⟨_, .answered reply written,
        .cons hprompt (.cons hread (.cons hwritten (.nil _)))⟩
    · exact ⟨_, .unanswered e, .cons hprompt (.cons hread (.nil _))⟩
  · exact ⟨_, .unheard e, .cons hprompt (.nil _)⟩

/-- The steps that every turn starts with, whatever the line is that they give. -/
theorem asked_led (sys : System σ) (env : Surroundings σ) (line : String)
    {f : Act (Host σ) (Except (Failure HostError) Unit)} {h : Host σ}
    {q : Except (Failure HostError) Unit → Host σ → Prop}
    (hok : ∀ deeds v, Asked line deeds (.ok ()) → Led sys env deeds h v → f.Ends v q)
    (herror : ∀ deeds v fault, Asked line deeds (.error fault) → Led sys env deeds h v →
      q (.error (.fault fault)) v) :
    ((sys.say "> ").andThen fun () =>
      (System.terminal sys.await).andThen fun () => f).Ends h q := by
  refine (ends_terminal (sys.print "> ") h).andThen ?_ ?_
  · rintro _ v ⟨_ | _, hr, hsaid⟩
    · cases hr
    refine (ends_terminal sys.await v).andThen ?_ ?_
    · rintro _ u ⟨_ | _, hr, htaken⟩
      · cases hr
      exact hok _ u .taken (.cons hsaid (.cons htaken (.nil _)))
    · rintro _ u ⟨fault | _, hr, htaken⟩
      · cases hr
        exact herror _ u fault (.untaken fault) (.cons hsaid (.cons htaken (.nil _)))
      · cases hr
  · rintro _ v ⟨fault | _, hr, hsaid⟩
    · cases hr
      exact herror _ v fault (.unwritten fault) (.cons hsaid (.nil _))
    · cases hr

/-- One line: where it ends the conversation, this is all, and otherwise an exchange is followed by
what is done with the lines behind it. -/
theorem takeTurns_line (sys : System σ) (env : Surroundings σ) (handle : Handle)
    {source line rest : List Char} (hsource : Text.readLine source = (line, rest))
    (hline : line ≠ []) {lines : List String}
    (ih : ∀ h, (sys.takeTurns env handle rest).Ends h fun result v =>
      ∃ deeds, Transcript handle lines deeds result ∧ Led sys env deeds h v) (h : Host σ) :
    (sys.takeTurns env handle source).Ends h fun result v =>
      ∃ deeds, Transcript handle (String.ofList line :: lines) deeds result ∧
        Led sys env deeds h v := by
  rw [System.takeTurns]
  simp only [hsource]
  rw [dif_neg hline]
  refine asked_led sys env (String.ofList line) (fun asked v hasked hled => ?_)
    fun asked v fault hasked hled => ?_
  · split_ifs with hblank hexit
    · have htext : Text.strip (String.ofList line) = "" := String.isEmpty_iff.1 hblank
      have hgoes : ¬leaves (String.ofList line) := by
        rw [leaves, htext]
        decide
      refine (ih v).imp ?_
      rintro result u ⟨deeds, hrest, hdeeds⟩
      exact ⟨_, hrest.cons hgoes (.blank htext asked hasked), hled.append hdeeds⟩
    · refine ⟨asked, .close (heard_cons_of_leaves hexit lines) (.ok ()) ?_, hled⟩
      rwa [closing_cons_of_leaves hexit]
    · have htext : Text.strip (String.ofList line) ≠ "" := fun h => hblank (String.isEmpty_iff.2 h)
      refine (turn_told sys env handle _ v).andThen ?_ ?_
      · rintro _ w ⟨told, htold, htoldled⟩
        refine (ih w).imp ?_
        rintro result u ⟨deeds, hrest, hdeeds⟩
        exact ⟨_, hrest.cons hexit (.told htext asked told hasked _ htold),
          (hled.append htoldled).append hdeeds⟩
      · rintro e w ⟨told, htold, htoldled⟩
        exact ⟨_, .first hexit (.told htext asked told hasked _ htold), hled.append htoldled⟩
  · by_cases hexit : leaves (String.ofList line)
    · refine ⟨asked, .close (heard_cons_of_leaves hexit lines) (.error fault) ?_, hled⟩
      rwa [closing_cons_of_leaves hexit]
    · exact ⟨asked, .first hexit (.unasked fault asked hasked), hled⟩

/-- The dialogue, by induction on the lines that are left. -/
theorem takeTurns_led (sys : System σ) (env : Surroundings σ) (handle : Handle)
    {lines : List (List Char)} {source : List Char} (hlines : Text.AreLines lines source)
    (h : Host σ) :
    (sys.takeTurns env handle source).Ends h fun result v =>
      ∃ deeds, Transcript handle (lines.map String.ofList) deeds result ∧
        Led sys env deeds h v := by
  have hend (h : Host σ) : (sys.takeTurns env handle []).Ends h fun result v =>
      ∃ deeds, Transcript handle [] deeds result ∧ Led sys env deeds h v := by
    rw [System.takeTurns]
    simp only [Text.readLine_of_not_mem List.not_mem_nil, ↓reduceDIte]
    refine asked_led sys env "" (fun asked v hasked hled => ?_) fun asked v fault hasked hled => ?_
    · exact ⟨asked, .close rfl (.ok ()) hasked, hled⟩
    · exact ⟨asked, .close rfl (.error fault) hasked, hled⟩
  induction hlines generalizing h with
  | nil => exact hend h
  | final line hline hfree =>
    exact takeTurns_line sys env handle (Text.readLine_of_not_mem hfree) hline hend h
  | cons line hfree lines rest _ ih =>
    exact takeTurns_line sys env handle (Text.readLine_append hfree rest) (by simp) ih h

/-! ### Failures -/

def Deed.Succeeds : Deed → Prop
  | .writes _ result => result.isOk
  | .takes result => result.isOk
  | .starts _ result => result.isOk
  | .configures _ _ result | .prompts _ _ result | .closes _ result => result.isOk
  | .reads _ result => result.isOk

/-- Whether nothing but the last of some deeds may fail, which it does unless they come to a good
end. -/
structure Stops (deeds : List Deed) (good : Prop) : Prop where
  nonempty : deeds ≠ []
  before (d : Deed) : d ∈ deeds.dropLast → d.Succeeds
  good_iff : good ↔ ∀ d ∈ deeds, d.Succeeds

theorem Stops.prepend {first deeds : List Deed} {good : Prop} (hfirst : ∀ d ∈ first, d.Succeeds)
    (h : Stops deeds good) : Stops (first ++ deeds) good where
  nonempty := List.append_ne_nil_of_right_ne_nil first h.nonempty
  before d hd := by
    rw [List.dropLast_append_of_ne_nil h.nonempty] at hd
    exact (List.mem_append.1 hd).elim (hfirst d) (h.before d)
  good_iff := by
    rw [h.good_iff, List.forall_mem_append]
    exact (and_iff_right hfirst).symm

theorem Asked.stops {line : String} {deeds : List Deed} {result : Except Fault Unit}
    (h : Asked line deeds result) : Stops deeds (result = .ok ()) := by
  cases h <;> exact ⟨by simp, by simp [Deed.Succeeds, Except.isOk, Except.toBool],
    by simp [Deed.Succeeds, Except.isOk, Except.toBool]⟩

theorem Told.stops {text : String} {deeds : List Deed} {result : Except (Failure HostError) Unit}
    (h : Told handle text deeds result) : Stops deeds (result = .ok ()) := by
  cases h with
  | answered reply written =>
    cases written <;> exact ⟨by simp, by simp [Deed.Succeeds, Except.isOk, Except.toBool],
      by simp [Deed.Succeeds, Except.isOk, Except.toBool, Except.mapError]⟩
  | unanswered e => exact ⟨by simp, by simp [Deed.Succeeds, Except.isOk, Except.toBool],
      by simp [Deed.Succeeds, Except.isOk, Except.toBool]⟩
  | unheard e => exact ⟨by simp, by simp, by simp [Deed.Succeeds, Except.isOk, Except.toBool]⟩

theorem Exchange.stops {line : String} {deeds : List Deed}
    {result : Except (Failure HostError) Unit} (h : Exchange handle line deeds result) :
    Stops deeds (result = .ok ()) := by
  cases h with
  | unasked f _ hasked => simpa using hasked.stops
  | blank _ _ hasked => simpa using hasked.stops
  | told _ asked deeds hasked _ htold => exact htold.stops.prepend (hasked.stops.good_iff.1 rfl)

theorem succeeds_of_exchanges {lines : List String} {exchanges : List (List Deed)}
    (h : List.Forall₂ (fun line deeds => Exchange handle line deeds (.ok ())) lines exchanges) :
    ∀ d ∈ exchanges.flatten, d.Succeeds := by
  induction h with
  | nil => exact fun d hd => absurd hd List.not_mem_nil
  | cons hfirst _ ih =>
    rw [List.flatten_cons]
    exact List.forall_mem_append.2 ⟨hfirst.stops.good_iff.1 rfl, ih⟩

/-- What fails in a dialogue is the last that is done in it. -/
theorem Transcript.stops {lines : List String} {deeds : List Deed}
    {result : Except (Failure HostError) Unit} (h : Transcript handle lines deeds result) :
    Stops deeds (result = .ok ()) := by
  cases h with
  | whole exchanges hall last result hlast =>
    have hstops := hlast.stops.prepend (succeeds_of_exchanges hall)
    cases result <;> simpa [Except.mapError] using hstops
  | broken _ _ _ _ exchanges hall last e hlast =>
    exact hlast.stops.prepend (succeeds_of_exchanges hall)

/-! ### Prompts, lines and output -/

def Deed.prompt? : Deed → Option String
  | .prompts _ text _ => some text
  | _ => none

def Deed.line? : Deed → Option String
  | .takes (.ok line) => some line
  | _ => none

def Deed.reply? : Deed → Option String
  | .reads _ (.ok reply) => some reply
  | _ => none

def written : List Deed → String
  | [] => ""
  | .writes text (.ok ()) :: deeds => text ++ written deeds
  | _ :: deeds => written deeds

def Deed.Works : Deed → Prop
  | .writes _ result => result.isOk
  | .takes result => result.isOk
  | _ => True

/-- Some lines without the blanks at their ends, those left out of which nothing remains. -/
def said (lines : List String) : List String :=
  (lines.map Text.strip).filter fun text => !text.isEmpty

/-- What a conversation looks like: a mark for each line and for the one that ends it, and behind
the marks of those that are not blank the replies, as far as there are any. -/
def screen : List String → List String → String
  | [], _ => "> "
  | line :: lines, replies =>
    if Text.strip line = "" then "> " ++ screen lines replies
    else
      match replies with
      | [] => "> "
      | reply :: replies => "> " ++ (s!"{reply}\n" ++ screen lines replies)

theorem written_append (before after : List Deed) :
    written (before ++ after) = written before ++ written after := by
  fun_induction written before with
  | case1 => exact (String.empty_append).symm
  | case2 text deeds ih =>
    rw [List.cons_append, written, ih, String.append_assoc]
  | case3 d deeds hd ih => rw [List.cons_append, written, ih]; exact hd

theorem screen_of_blank {line : String} (h : Text.strip line = "") (lines replies : List String) :
    screen (line :: lines) replies = "> " ++ screen lines replies := by
  cases replies <;> exact if_pos h

theorem screen_of_reply {line : String} (h : Text.strip line ≠ "") (lines : List String)
    (reply : String) (replies : List String) :
    screen (line :: lines) (reply :: replies) = "> " ++ (s!"{reply}\n" ++ screen lines replies) :=
  if_neg h

theorem screen_nil {line : String} (h : Text.strip line ≠ "") (lines : List String) :
    screen (line :: lines) [] = "> " :=
  if_neg h

theorem Asked.prompts {line : String} {deeds : List Deed} {result : Except Fault Unit}
    (h : Asked line deeds result) :
    deeds.filterMap Deed.prompt? = [] ∧ deeds.filterMap Deed.reply? = [] := by
  cases h <;> exact ⟨rfl, rfl⟩

theorem Asked.eq_of_ok {line : String} {deeds : List Deed} (h : Asked line deeds (.ok ())) :
    deeds = [.writes "> " (.ok ()), .takes (.ok line)] := by
  cases h
  rfl

theorem Asked.ok_of_works {line : String} {deeds : List Deed} {result : Except Fault Unit}
    (h : Asked line deeds result) (hworks : ∀ d ∈ deeds, d.Works) : result = .ok () := by
  cases h <;> simp [Deed.Works, Except.isOk, Except.toBool] at hworks ⊢

theorem said_append (before after : List String) :
    said (before ++ after) = said before ++ said after := by
  rw [said, List.map_append, List.filter_append]
  rfl

theorem said_cons (line : String) (lines : List String) :
    said (line :: lines) = said [line] ++ said lines :=
  said_append [line] lines

theorem said_of_ne {line : String} (h : Text.strip line ≠ "") :
    said [line] = [Text.strip line] := by
  simp [said, h]

/-- What becomes of a line for which an exchange comes to no error. -/
theorem Exchange.effects {line : String} {deeds : List Deed}
    (h : Exchange handle line deeds (.ok ())) :
    deeds.filterMap Deed.prompt? = said [line] ∧ deeds.filterMap Deed.line? = [line] ∧
      ∀ lines replies, screen (line :: lines) (deeds.filterMap Deed.reply? ++ replies) =
        written deeds ++ screen lines replies := by
  generalize hresult : (.ok () : Except (Failure HostError) Unit) = result at h
  cases h with
  | unasked f => cases hresult
  | blank hblank _ hasked =>
    rw [hasked.eq_of_ok]
    exact ⟨by simp [said, hblank, Deed.prompt?], rfl, screen_of_blank hblank⟩
  | told htext asked deeds hasked _ htold =>
    rw [hasked.eq_of_ok]
    cases htold with
    | answered reply result =>
      cases result with
      | error f => cases hresult
      | ok =>
        refine ⟨(said_of_ne htext).symm, rfl, fun lines replies => ?_⟩
        refine (screen_of_reply htext lines reply replies).trans ?_
        simp [written, String.append_assoc]
    | unanswered e => cases hresult
    | unheard e => cases hresult

theorem effects_of_exchanges {lines : List String} {exchanges : List (List Deed)}
    (h : List.Forall₂ (fun line deeds => Exchange handle line deeds (.ok ())) lines exchanges) :
    exchanges.flatten.filterMap Deed.prompt? = said lines ∧
      exchanges.flatten.filterMap Deed.line? = lines ∧
      ∀ after replies, screen (lines ++ after)
          (exchanges.flatten.filterMap Deed.reply? ++ replies) =
        written exchanges.flatten ++ screen after replies := by
  induction h with
  | nil => exact ⟨rfl, rfl, fun after replies => String.empty_append.symm⟩
  | cons hfirst _ ih =>
    obtain ⟨hprompts, hlines, hscreen⟩ := ih
    obtain ⟨hprompt, hline, hshown⟩ := hfirst.effects
    simp only [List.flatten_cons, List.filterMap_append]
    refine ⟨?_, ?_, fun after replies => ?_⟩
    · rw [hprompt, hprompts, ← said_cons]
    · rw [hline, hlines, List.singleton_append]
    · rw [List.append_assoc, List.cons_append, hshown, hscreen, written_append, String.append_assoc]

theorem Exchange.effects_of_error {line : String} {deeds : List Deed} {e : Failure HostError}
    (h : Exchange handle line deeds (.error e)) :
    deeds.filterMap Deed.prompt? <+: said [line] ∧ deeds.filterMap Deed.line? <+: [line] ∧
      ((∀ d ∈ deeds, d.Works) → ∀ lines, screen (line :: lines) (deeds.filterMap Deed.reply?) =
        written deeds) := by
  generalize hresult : (.error e : Except (Failure HostError) Unit) = result at h
  cases h with
  | unasked f _ hasked =>
    refine ⟨hasked.prompts.1 ▸ List.nil_prefix, ?_, fun hworks => ?_⟩
    · generalize (.error f : Except Fault Unit) = result' at hasked
      cases hasked with
      | taken => exact List.prefix_rfl
      | untaken f => exact List.nil_prefix
      | unwritten f => exact List.nil_prefix
    · cases hasked.ok_of_works hworks
  | blank => cases hresult
  | told htext asked deeds hasked _ htold =>
    rw [hasked.eq_of_ok, said_of_ne htext]
    have hstart : [Text.strip line] <+: [Text.strip line] ∧ [line] <+: [line] :=
      ⟨List.prefix_rfl, List.prefix_rfl⟩
    cases htold with
    | answered reply result =>
      refine ⟨hstart.1, hstart.2, fun hworks => ?_⟩
      cases result with
      | error f => simp [Deed.Works, Except.isOk, Except.toBool] at hworks
      | ok => cases hresult
    | unanswered e => exact ⟨hstart.1, hstart.2, fun _ => screen_nil htext⟩
    | unheard e => exact ⟨hstart.1, hstart.2, fun _ => screen_nil htext⟩

/-- What becomes of all lines. -/
theorem Transcript.effects {lines : List String} {deeds : List Deed}
    {result : Except (Failure HostError) Unit} (h : Transcript handle lines deeds result) :
    deeds.filterMap Deed.prompt? <+: said (heard lines) ∧
      deeds.filterMap Deed.line? <+: heard lines ++ [closing lines] ∧
      (result = .ok () → deeds.filterMap Deed.prompt? = said (heard lines) ∧
        deeds.filterMap Deed.line? = heard lines ++ [closing lines]) ∧
      ((∀ d ∈ deeds, d.Works) →
        written deeds = screen (heard lines) (deeds.filterMap Deed.reply?)) := by
  cases h with
  | whole exchanges hall last result hlast =>
    obtain ⟨hprompts, hlines, hscreen⟩ := effects_of_exchanges hall
    simp only [List.filterMap_append, List.forall_mem_append, written_append, hprompts, hlines,
      hlast.prompts, List.append_nil]
    refine ⟨List.prefix_rfl, ?_, ?_, ?_⟩
    · refine List.prefix_append_right_inj _ |>.2 ?_
      cases hlast with
      | taken => exact List.prefix_rfl
      | untaken f => exact List.nil_prefix
      | unwritten f => exact List.nil_prefix
    · intro hresult
      cases hlast with
      | taken => exact ⟨trivial, rfl⟩
      | untaken f => cases hresult
      | unwritten f => cases hresult
    · rintro ⟨-, hworks⟩
      obtain rfl := hlast.ok_of_works hworks
      have hall := hscreen [] []
      rw [List.append_nil, List.append_nil] at hall
      rw [hall, hlast.eq_of_ok]
      rfl
  | broken before after line hheard exchanges hall last e hlast =>
    obtain ⟨hprompts, hlines, hscreen⟩ := effects_of_exchanges hall
    obtain ⟨hprompt, hline, hshown⟩ := hlast.effects_of_error
    simp only [List.filterMap_append, List.forall_mem_append, written_append, hprompts, hlines,
      hheard]
    refine ⟨?_, ?_, fun hresult => (by cases hresult), ?_⟩
    · rw [said_append, said_cons, List.prefix_append_right_inj]
      exact hprompt.trans (List.prefix_append _ _)
    · rw [List.append_assoc, List.prefix_append_right_inj]
      exact hline.trans ⟨after ++ [closing lines], rfl⟩
    · rintro ⟨-, hworks⟩
      rw [hscreen, hshown hworks]

/-- Whatever text is put in, and whatever replies come, the dialogue ends. Each line up to the first
that ends it is asked for and read, and sent as a prompt without the blanks at its ends unless it is
blank; the reply to a prompt is read and written before the next line is asked for. What fails is
the last that is done, and what is written is the marks of the lines and the replies between. -/
theorem takeTurns_transcript (sys : System σ) (env : Surroundings σ) (handle : Handle)
    (text : String) (h : Host σ) :
    ∃ lines : List String, Text.AreLines (lines.map String.toList) text.toList ∧
      (sys.takeTurns env handle text.toList).Ends h fun result v =>
        ∃ deeds, Transcript handle lines deeds result ∧ Led sys env deeds h v ∧
          Stops deeds (result = .ok ()) ∧
          deeds.filterMap Deed.prompt? <+: said (heard lines) ∧
          deeds.filterMap Deed.line? <+: heard lines ++ [closing lines] ∧
          (result = .ok () → deeds.filterMap Deed.prompt? = said (heard lines) ∧
            deeds.filterMap Deed.line? = heard lines ++ [closing lines]) ∧
          ((∀ d ∈ deeds, d.Works) →
            written deeds = screen (heard lines) (deeds.filterMap Deed.reply?)) := by
  obtain ⟨lines, hlines⟩ := Text.exists_areLines text.toList
  refine ⟨lines.map String.ofList, by simpa using hlines, ?_⟩
  refine (takeTurns_led sys env handle hlines h).imp ?_
  rintro result v ⟨deeds, htranscript, hled⟩
  exact ⟨deeds, htranscript, hled, htranscript.stops, htranscript.effects⟩

end Cli

end ChatHost
