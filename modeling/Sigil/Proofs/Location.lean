/-
# Where failures are located

A run over a value interprets the strings of the value one after another, of an entry the value
before the key, and has no other effects or failures.  So a run that fails has a first string that
fails, and all strings before it succeed.

A failure that arises in the evaluation of a string carries no place yet, whatever the function that
failed handed back: it becomes an error of the language, and is located at the string, with the
marks of the run.  One failure is not located, since it arises after the evaluation: a key whose
value has no text.
-/
import Sigil.Library.Standard
import Sigil.Proofs.Parametricity

namespace Sigil

open Eval

namespace Run

/-- Interprets a string of a value. -/
def interpretSlot (run : Run) (params : Entries) (slot : Slot) : Eval Value :=
  if slot.isKey then run.interpretKey params (.text slot.text)
  else run.interpretString params slot.text

/-- Interprets strings of a value one after another. -/
def interpretSlots (run : Run) (params : Entries) : List Slot → Eval Unit
  | [] => pure ()
  | slot :: rest => do
    let _ ← run.interpretSlot params slot
    run.interpretSlots params rest

variable {run : Run} {params : Entries}

lemma interpretSlots_append (slots more : List Slot) :
    run.interpretSlots params (slots ++ more) =
      (run.interpretSlots params slots >>= fun _ => run.interpretSlots params more) := by
  induction slots with
  | nil => rfl
  | cons slot rest ih => simp only [List.cons_append, interpretSlots, ih, bind_assoc]

lemma interpretKey_effects (key : Value) :
    (fun _ => ()) <$> run.interpretKey params key =
      run.interpretSlots params key.keySlots := by
  cases key <;>
    simp only [interpretKey, Value.keySlots, interpretSlots, interpretSlot, map_eq_pure_bind,
      bind_assoc, pure_bind, if_true]

mutual

/-- A run over a value has the effects and failures of its strings. -/
lemma walk_effects (v : Value) :
    (fun _ => ()) <$> run.walk params v = run.interpretSlots params v.slots := by
  cases v with
  | text s =>
      simp only [walk, Value.slots, interpretSlots, interpretSlot, map_eq_pure_bind]
      rfl
  | list items =>
      rw [Value.slots, ← walkItems_effects items]
      simp only [walk, Functor.map_map]
  | tuple items =>
      rw [Value.slots, ← walkItems_effects items]
      simp only [walk, Functor.map_map]
  | mapping entries =>
      rw [Value.slots, ← walkEntries_effects entries]
      simp only [walk, map_eq_pure_bind, bind_assoc, pure_bind]
  | _ => rfl

lemma walkItems_effects (items : List Value) :
    (fun _ => ()) <$> run.walkItems params items =
      run.interpretSlots params (Value.itemSlots items) := by
  cases items with
  | nil => rfl
  | cons v rest =>
      have hv := walk_effects v
      have hrest := walkItems_effects rest
      rw [Value.itemSlots, interpretSlots_append, ← hv, ← hrest]
      simp only [walkItems, map_eq_pure_bind, bind_assoc, pure_bind]

lemma walkEntries_effects (entries : List (Value × Value)) :
    (fun _ => ()) <$> run.walkEntries params entries =
      run.interpretSlots params (Value.entrySlots entries) := by
  match entries with
  | [] => rfl
  | (key, v) :: rest =>
      have hv := walk_effects v
      have hrest := walkEntries_effects rest
      rw [Value.entrySlots, interpretSlots_append, interpretSlots_append, ← hv, ← hrest,
        ← interpretKey_effects]
      simp only [walkEntries, map_eq_pure_bind, bind_assoc, pure_bind]

end

end Run

/-! ### The first string that fails -/

section

variable {run : Run} {params : Entries} {s t : Session} {e : Failure}

/-- Strings fail one after another exactly if one fails after those before it have succeeded. -/
lemma interpretSlots_error_iff {slots : List Slot} :
    (run.interpretSlots params slots).run s = some (.error e, t) ↔
      ∃ before slot after u, slots = before ++ slot :: after ∧
        (run.interpretSlots params before).run s = some (.ok (), u) ∧
        (run.interpretSlot params slot).run u = some (.error e, t) := by
  constructor
  · intro h
    induction slots generalizing s with
    | nil => simp [Run.interpretSlots] at h
    | cons first rest ih =>
        rw [Run.interpretSlots, run_bind_eq_error] at h
        rcases h with hfirst | ⟨v, u, hfirst, hrest⟩
        · exact ⟨[], first, rest, s, rfl, rfl, hfirst⟩
        · obtain ⟨before, slot, after, w, rfl, hbefore, hslot⟩ := ih hrest
          refine ⟨first :: before, slot, after, w, rfl, ?_, hslot⟩
          rw [Run.interpretSlots, run_bind_ok hfirst, hbefore]
  · rintro ⟨before, slot, after, u, rfl, hbefore, hslot⟩
    rw [Run.interpretSlots_append, run_bind_ok hbefore, Run.interpretSlots, run_bind_error hslot]

lemma walk_error_iff {v : Value} :
    (run.walk params v).run s = some (.error e, t) ↔
      ∃ before slot after u, v.slots = before ++ slot :: after ∧
        (run.interpretSlots params before).run s = some (.ok (), u) ∧
        (run.interpretSlot params slot).run u = some (.error e, t) := by
  rw [← run_map_eq_error, Run.walk_effects, interpretSlots_error_iff]

end

/-! ### The failure of a string -/

namespace Eval

/-- If the step fails, its failure is not located yet. -/
def Unplaced {α : Type} (x : Eval α) : Prop :=
  ∀ s e t, x.run s = some (.error e, t) → e.Fresh

lemma unplaced_of_onHost {α : Type} {run : Host → Option (Except Failure α × Host)}
    (h : ∀ host e host', run host ≠ some (.error e, host')) : Unplaced (onHost run) := by
  intro s e t hr
  obtain ⟨⟨r, host⟩, hrun, heq⟩ := Option.map_eq_some_iff.mp hr
  cases heq
  exact absurd hrun (h _ _ _)

/-- Being not located is closed under the steps of an evaluation. -/
lemma Unplaced.stepClosed : StepClosed fun _ x _ => Unplaced x where
  pure _ := by
    intro s e t h
    simp at h
  fail _ _ he := by
    intro s e t h
    cases h
    exact he
  bind hx hf := by
    intro s e t h
    rcases run_bind_eq_error.mp h with hrun | ⟨a, u, -, hrest⟩
    · exact hx _ _ _ hrun
    · exact hf a _ _ _ hrest
  getenv _ := unplaced_of_onHost (by simp)
  record _ := by
    intro s e t h
    cases h
  within frame hx := by
    intro s e t h
    obtain ⟨⟨r, u⟩, hrun, heq⟩ := Option.map_eq_some_iff.mp h
    cases heq
    exact hx _ _ _ hrun

end Eval

/-- The failure of a text is not located yet. -/
lemma run_unplaced (sc : Scope) (text : String) : Unplaced (sc.run text) := by
  have hcalls : CallsRelated (fun _ x _ => Unplaced x) (CallWord sc.functions) sc sc := by
    intro w entry args _ _ s e t h
    rw [run_invoke] at h
    obtain ⟨⟨cause | v, host⟩, -, heq⟩ := Option.map_eq_some_iff.mp h
    · cases heq
      exact fresh_callFailure _ _ _ _
    · cases heq
  exact run_related Unplaced.stepClosed hcalls (textOver_callWord _ text)

/-- A failure that is not located yet becomes an error of the language at the string. -/
lemma locate_of_unplaced (run : Run) (text : String) {cause : Failure} (h : cause.Fresh) :
    (run.locate text cause).isLanguageError ∧
      (run.locate text cause).site? = some ⟨.text text, run.chain, run.process⟩ := by
  obtain ⟨hsite, hwording⟩ := h
  cases cause <;> simp_all [Run.locate, Failure.isLanguageError, Failure.locate, Failure.source,
    Failure.site?, Failure.withSite, Failure.wordingFault?]

section

variable {run : Run} {params : Entries} {s t : Session} {e : Failure}

lemma interpretString_error {text : String}
    (h : (run.interpretString params text).run s = some (.error e, t)) :
    ∃ cause, (Scope.run ⟨run.functions, params, run.reenter⟩ text).run s = some (.error cause, t) ∧
      e = run.locate text cause := by
  by_cases hsigil : text.toList.contains sigil
  · rw [interpretString_of_sigil run params hsigil, run_mapFailure] at h
    obtain ⟨⟨cause | v, u⟩, hrun, heq⟩ := Option.map_eq_some_iff.mp h
    · cases heq
      exact ⟨cause, hrun, rfl⟩
    · cases heq
  · rw [interpretString_of_free run params hsigil] at h
    cases h

/-- A key fails as its string does, or because its value has no text. -/
lemma interpretKey_error {text : String}
    (h : (run.interpretKey params (.text text)).run s = some (.error e, t)) :
    (run.interpretString params text).run s = some (.error e, t) ∨
      ∃ w f, (run.interpretString params text).run s = some (.ok w, t) ∧ w.toText = .error f ∧
        e = .fault f := by
  rw [Run.interpretKey, run_bind_eq_error] at h
  rcases h with hrun | ⟨w, u, hrun, hrest⟩
  · exact .inl hrun
  · refine .inr ⟨w, ?_⟩
    split at hrest
    · cases hrest
    · cases htext : w.toText with
      | error f =>
          simp only [htext, ofFault_error, ofExcept_error_bind] at hrest
          cases hrest
          exact ⟨f, hrun, rfl, rfl⟩
      | ok x =>
          simp only [htext, ofFault_ok, pure_bind] at hrest
          cases hrest

lemma interpretKey_of_toText_error {text : String} {w : Value} {f : Fault}
    (h : (run.interpretString params text).run s = some (.ok w, t)) (hw : w.toText = .error f) :
    (run.interpretKey params (.text text)).run s = some (.error (.fault f), t) := by
  rw [Run.interpretKey, run_bind_ok h]
  cases w with
  | text x => cases hw
  | _ =>
      simp only [hw]
      rfl

lemma interpretKey_of_error {text : String}
    (h : (run.interpretString params text).run s = some (.error e, t)) :
    (run.interpretKey params (.text text)).run s = some (.error e, t) := by
  rw [Run.interpretKey, run_bind_error h]

/-- A string of a value fails in its evaluation, or because it is a key whose value has no text. -/
lemma interpretSlot_error_iff {slot : Slot} :
    (run.interpretSlot params slot).run s = some (.error e, t) ↔
      (run.interpretString params slot.text).run s = some (.error e, t) ∨
        slot.isKey ∧ ∃ w f, (run.interpretString params slot.text).run s = some (.ok w, t) ∧
          w.toText = .error f ∧ e = .fault f := by
  obtain ⟨text, isKey⟩ := slot
  cases isKey with
  | false => simp [Run.interpretSlot]
  | true =>
      simp only [Run.interpretSlot, if_true, true_and]
      constructor
      · exact interpretKey_error
      · rintro (h | ⟨w, f, hrun, hw, rfl⟩)
        · exact interpretKey_of_error h
        · exact interpretKey_of_toText_error hrun hw

end

/-- An error of the language that is located at a text, with the marks of the local parameters. -/
def Failure.LocatedAt (text : String) (locals : Value) (e : Failure) : Prop :=
  e.isLanguageError ∧
    e.site? = some ⟨.text text, Run.mark locals "CHAIN_ID", Run.mark locals "PROCESS_ID"⟩

/-- **The failures of a run over a value.**  A run fails exactly if one of its strings fails after
those before it have succeeded.  If the string fails in its evaluation, the failure is an error of
the language that is located at the string.  The only other failure is that of a key whose value
has no text; it is not located. -/
theorem walk_failure (functions : Functions) (re : Reentry) (locals : Value) (params : Entries)
    (v : Value) (s t : Session) (e : Failure) :
    let run := Run.ofLocals functions re locals
    (run.walk params v).run s = some (.error e, t) ↔
      ∃ before slot after u, v.slots = before ++ slot :: after ∧
        (run.interpretSlots params before).run s = some (.ok (), u) ∧
        ((run.interpretString params slot.text).run u = some (.error e, t) ∧
            e.LocatedAt slot.text locals ∨
          slot.isKey ∧ ∃ w f, (run.interpretString params slot.text).run u = some (.ok w, t) ∧
            w.toText = .error f ∧ e = .fault f) := by
  intro run
  have hlocated {text : String} {u : Session}
      (h : (run.interpretString params text).run u = some (.error e, t)) :
      e.LocatedAt text locals := by
    obtain ⟨cause, hcause, rfl⟩ := interpretString_error h
    exact locate_of_unplaced run text (run_unplaced _ _ _ _ _ hcause)
  rw [walk_error_iff]
  constructor
  · rintro ⟨before, slot, after, u, hslots, hbefore, hslot⟩
    refine ⟨before, slot, after, u, hslots, hbefore, ?_⟩
    rcases interpretSlot_error_iff.mp hslot with h | h
    · exact .inl ⟨h, hlocated h⟩
    · exact .inr h
  · rintro ⟨before, slot, after, u, hslots, hbefore, hslot⟩
    refine ⟨before, slot, after, u, hslots, hbefore, interpretSlot_error_iff.mpr ?_⟩
    rcases hslot with ⟨h, -⟩ | h
    · exact .inl h
    · exact .inr h

/-- The value of an entry is interpreted before its key, where a name without value is located. -/
theorem walk_failure_in_key :
    let locals : Value := .mapping [(.text "CHAIN_ID", .text "c7")]
    let run := Run.ofLocals listScope.functions .never locals
    let s : Session := ⟨Host.blank, []⟩
    let e : Failure := .undefined "x" (some ⟨.text "@list(x)", .text "c7", .null⟩)
    (run.walk [] (.mapping [(.text "@list(x)", .text "@list()")])).run s = some (.error e, s) ∧
      e.LocatedAt "@list(x)" locals := by
  intro locals run s e
  have hempty : Parses run.functions.isName "@list()" [.call "list" "@list" []] :=
    except_map_eq_ok.mp (by cbv)
  have hname : Parses run.functions.isName "@list(x)"
      [.call "list" "@list" [.ident "x"]] := except_map_eq_ok.mp (by cbv)
  have hvalue : (run.interpretString [] "@list()").run s = some (.ok (.list []), s) := by
    rw [interpretString_of_parses [] (by decide) hempty]
    rfl
  have hkey : (run.interpretString [] "@list(x)").run s = some (.error e, s) := by
    rw [interpretString_of_parses [] (by decide) hname]
    rfl
  have hlocated : e.LocatedAt "@list(x)" locals := ⟨rfl, rfl⟩
  have hwalk := (walk_failure listScope.functions .never locals [] (.mapping
    [(.text "@list(x)", .text "@list()")]) s s e).mpr ⟨[⟨"@list()", false⟩], ⟨"@list(x)", true⟩, [],
      s, rfl, run_bind_ok hvalue _, .inl ⟨hkey, hlocated⟩⟩
  exact ⟨hwalk, hlocated⟩

/-- Local parameters with a mark, and a mapping with a key that has no JSON form. -/
def unwritable : Entries :=
  [(.text "CHAIN_ID", .text "c7"), (.text "k", .mapping [(.tuple [.int 1, .int 2], .int 3)])]

/-- A key whose value has no text fails without a place. -/
theorem unwritable_key_escapes :
    let run := Run.ofLocals Library.standard .never (.mapping unwritable)
    let s : Session := ⟨Host.blank, []⟩
    let e : Failure := .fault (Fault.type "keys must be str, int, float, bool or None, not tuple")
    (run.walk unwritable (.mapping [(.text "@gv('k')", .int 1)])).run s = some (.error e, s) ∧
      ∀ text, ¬ e.LocatedAt text (.mapping unwritable) := by
  intro run s e
  refine ⟨?_, fun text h => by cases h.1⟩
  cbv

end Sigil
