/-
# Expansions inside expansions

While the text of a global value is expanded, a function may hand a template back to the
interpreter, which layers the global values again and so expands the same texts.  Here the
interpreter is followed with a bound on the number of expansions that are under way in one another:
where a further one is needed, there is no result.

Whatever the interpreter gives within a bound, it gives.  With the bound one, no expansion takes
place inside another.  It gives all results of the interpreter if no text that is expanded calls a
function that hands templates back; such a function nests expansions, without end if every expansion
hands back the next one.
-/
import Sigil.Proofs.Isolation
import Sigil.Proofs.Resolution
import Sigil.Proofs.Templates

namespace Sigil

open Eval

/-! ### Bounded expansions -/

/-- The step that has no result. -/
def Eval.stuck {α : Type} : Eval α := ExceptT.mk fun _ => none

/-- What expands texts of global values within a number of expansions, where the interpreter of
templates depends on how many of them are left. -/
def expanderWithin (functions : Functions) (re : ℕ → Reentry) (locals : Value) :
    ℕ → Globals.Expander
  | 0 => fun _ _ => Eval.stuck
  | bound + 1 => (Run.ofLocals functions (re bound) locals).expander

/-- The result of a planned call with at most `bound` expansions under way in one another. -/
def interpretWithin (functions : Functions) (re : ℕ → Reentry) (bound : ℕ) (r : Request)
    (plan : Except Failure Plan) (h : Host) : Option (Except Failure Value × Host) :=
  match plan with
  | .error e => some (.error e, h)
  | .ok plan => (plan.carryOutBy functions (re bound)
      (expanderWithin functions re r.locals bound) r.value r.locals).start h

/-- The interpreter of templates to a given depth, with at most `bound` expansions under way in one
another. -/
def reentryWithin (functions : Functions) (store : Globals.Store) : ℕ → ℕ → Reentry
  | 0, _ => .never
  | depth + 1, bound => fun template params h =>
    let r : Request := { value := template, locals := params }
    interpretWithin functions (reentryWithin functions store depth) bound r (r.plan store).1 h

/-- The result of a call with at most `bound` expansions under way in one another. -/
def Interpreter.interpretToWithin (bound depth : ℕ) (i : Interpreter) (r : Request) (h : Host) :
    Option (Except Failure Value × Host) :=
  interpretWithin i.functions (reentryWithin i.functions (r.plan i.store).2 depth) bound r
    (r.plan i.store).1 h

/-- Calls never expand a global value while another one is expanded. -/
def NeverNests (functions : Functions) : Prop :=
  ∀ depth store r h, Interpreter.interpretToWithin 1 depth ⟨functions, store⟩ r h =
    (Interpreter.interpretTo depth ⟨functions, store⟩ r h).1

section

variable {functions : Functions} {re : Reentry} {within : ℕ → Reentry} {r : Request}
  {plan : Except Failure Plan} {h : Host} {x : Except Failure Value × Host}

lemma interpretWithin_below {bound : ℕ} (hbelow : ∀ bound, Reentry.Below (within bound) re)
    (hx : interpretWithin functions within bound r plan h = some x) :
    interpretPlanned functions re r plan h = some x := by
  cases plan with
  | error e => exact hx
  | ok plan =>
      have hsteps : (plan.carryOutBy functions (within bound)
          (expanderWithin functions within r.locals bound) r.value r.locals).Refines
            (plan.carryOut functions re r.value r.locals) := by
        rw [carryOut_eq_carryOutBy]
        refine carryOutBy_related (Eval.Refines.runClosed (.of_below (hbelow bound)) r.locals)
          (fun text _ => textOver_callWord functions text) fun text _ bindings => ?_
        cases bound with
        | zero =>
            -- no expansion is left, so there is no result to compare
            intro s y hy
            cases hy
        | succ bound =>
            exact interpretString_related (Eval.Refines.runClosed (.of_below (hbelow bound))
              r.locals) bindings (textOver_callWord functions text)
      exact map_eq_some_mono (hsteps ⟨h, []⟩) _ hx

/-- If no text that is expanded hands templates back, a planned call expands nothing inside an
expansion. -/
lemma below_interpretWithin (hbelow : Reentry.Below re (within 1))
    (hquiet : ∀ p, plan = .ok p → ∀ text ∈ p.jsonTexts, CallsOnly (¬ ·.HandsBack) functions text)
    (hx : interpretPlanned functions re r plan h = some x) :
    interpretWithin functions within 1 r plan h = some x := by
  cases plan with
  | error e => exact hx
  | ok plan =>
      have hsteps : (plan.carryOut functions re r.value r.locals).Refines
          (plan.carryOutBy functions (within 1)
            (expanderWithin functions within r.locals 1) r.value r.locals) := by
        rw [carryOut_eq_carryOutBy]
        refine carryOutBy_related (Eval.Refines.runClosed (.of_below hbelow) r.locals)
          (fun text _ => textOver_callWord functions text) fun text htext bindings => ?_
        -- the expansion never asks for a template, so it does not matter that none can expand
        exact interpretString_related (Eval.Refines.runClosed (.of_keeps re (within 0)) r.locals)
          bindings (hquiet plan rfl text htext)
      exact map_eq_some_mono (hsteps ⟨h, []⟩) _ hx

end

section

variable (functions : Functions) {re : Reentry} {within : ℕ → Reentry}

lemma interpretWithin_succ {bound : ℕ} (hnext : within bound = re) (hre : within (bound + 1) = re)
    (r : Request) (plan : Except Failure Plan) (h : Host) :
    interpretWithin functions within (bound + 1) r plan h =
      interpretPlanned functions re r plan h := by
  cases plan with
  | error e => rfl
  | ok plan =>
      simp only [interpretWithin, interpretPlanned, expanderWithin, hnext, hre,
        carryOut_eq_carryOutBy]

/-- Templates that are nested to some depth expand global values at most so often in one another. -/
lemma reentryWithin_eq (store : Globals.Store) {depth bound : ℕ} (hdepth : depth ≤ bound) :
    reentryWithin functions store depth bound = reentry functions store depth := by
  induction depth generalizing bound with
  | zero => rfl
  | succ depth ih =>
      obtain ⟨bound, rfl⟩ := Nat.exists_eq_add_of_lt hdepth
      funext template params h
      let r : Request := { value := template, locals := params }
      exact interpretWithin_succ functions (ih (Nat.le_add_right depth bound))
        (ih (Nat.le_add_right depth (bound + 1))) r (r.plan store).1 h

lemma interpretToWithin_eq {depth bound : ℕ} (hdepth : depth < bound) (store : Globals.Store)
    (r : Request) (h : Host) :
    Interpreter.interpretToWithin bound depth ⟨functions, store⟩ r h =
      (Interpreter.interpretTo depth ⟨functions, store⟩ r h).1 := by
  obtain ⟨bound, rfl⟩ := Nat.exists_eq_add_of_lt hdepth
  exact interpretWithin_succ functions (reentryWithin_eq functions _ (Nat.le_add_right depth bound))
    (reentryWithin_eq functions _ (Nat.le_add_right depth (bound + 1))) r _ h

end

lemma Globals.Store.enter_entries {store : Globals.Store} {options : Options} {newGlobals : Value}
    {globals : Entries} (h : (store.enter options newGlobals).1 = .ok globals) :
    globals = [] ∨ globals = (store.enter options newGlobals).2.entries := by
  unfold enter at h ⊢
  split at h
  · rename_i hignore
    rw [if_pos hignore]
    exact .inl (Except.ok.inj h).symm
  · rename_i hignore
    rw [if_neg hignore]
    cases hmerge : store.mergeNew newGlobals with
    | error e =>
        rw [hmerge] at h
        cases h
    | ok t =>
        rw [hmerge] at h
        exact .inr (Except.ok.inj h).symm

/-- What a call expands are texts of the store that it leaves. -/
lemma Request.mem_jsonTexts {r : Request} {store : Globals.Store} {p : Plan}
    (hplan : (r.plan store).1 = .ok p) {text : String} (htext : text ∈ p.jsonTexts) :
    text ∈ Globals.jsonTexts (r.plan store).2.entries := by
  unfold Request.plan at hplan ⊢
  cases hoptions : r.options with
  | error f => simp [hoptions] at hplan
  | ok options =>
      rw [hoptions] at hplan
      cases hlarge : options.tooLarge r.value with
      | error f => simp [hlarge] at hplan
      | ok large =>
          cases large with
          | true =>
              simp only [hlarge, Except.ok.injEq] at hplan
              subst hplan
              cases htext
          | false =>
              simp only [hlarge] at hplan ⊢
              obtain ⟨globals, hglobals, rfl⟩ := except_map_eq_ok.mp hplan
              rcases Globals.Store.enter_entries hglobals with rfl | rfl
              · cases htext
              · exact htext

section

variable {functions : Functions} {store : Globals.Store}

lemma reentryWithin_below (depth bound : ℕ) :
    Reentry.Below (reentryWithin functions store depth bound) (reentry functions store depth) := by
  induction depth generalizing bound with
  | zero =>
      intro _ _ _ _ hr
      cases hr
  | succ depth ih =>
      intro template params h x hr
      rw [reentryWithin] at hr
      exact interpretWithin_below ih hr

lemma below_reentryWithin
    (hquiet : ∀ text ∈ Globals.jsonTexts store.entries, CallsOnly (¬ ·.HandsBack) functions text)
    (depth : ℕ) :
    Reentry.Below (reentry functions store depth) (reentryWithin functions store depth 1) := by
  induction depth with
  | zero =>
      intro _ _ _ _ hr
      cases hr
  | succ depth ih =>
      intro template params h x hr
      rw [reentry] at hr
      rw [reentryWithin]
      -- a template is interpreted with the store as it is
      exact below_interpretWithin ih (fun p hp text htext => hquiet text
        (Request.mem_jsonTexts hp htext)) hr

end

/-- Expansions that hand no templates back never keep a layering from having a result. -/
lemma layer_total {run : Run} {options : Options} {locals : Value} {globals : Entries}
    (hquiet : ∀ text ∈ Globals.jsonTexts globals, CallsOnly (¬ ·.HandsBack) run.functions text)
    (hlocals : ∀ bindings, Total (run.interpretLocals options locals bindings)) :
    Total (run.layer options locals globals) := by
  have hclosed := Eval.Total.runClosed run
  have hresolve (overlay : Value) : Total (Globals.resolve (.mapping globals) (some run.expander)
      overlay) :=
    @resolve_related _ _ _ run run hclosed run.expander run.expander globals overlay
      fun text htext bindings => interpretString_related hclosed bindings (hquiet text htext)
  rw [Run.layer]
  split
  · exact (hlocals []).bind fun _ _ => rfl
  · exact Total.bind (fun _ => rfl) fun plain => (hlocals plain).bind fun resolved =>
      (hresolve resolved).bind fun _ => Total.bind (fun _ => rfl) fun _ _ => rfl

/-! ### An expansion that hands a template back -/

/-- JSON leaves the characters of a word as they are. -/
def PlainWord (w : String) : Prop := ∀ c ∈ w.toList, Json.stringChar c = [c]

/-- A call word that JSON leaves as it is, for a function that hands templates back. -/
structure BackWord (functions : Functions) (w : String) : Prop where
  /-- JSON leaves the word as it is. -/
  plain : PlainWord w
  /-- The scanner can cut the word. -/
  callWord : CallWord functions w
  /-- It names a function that hands templates back. -/
  handsBack : ∃ entry, functions.lookup (calledName w) = some entry ∧ entry.HandsBack

/-- A call with a parameter as both of its arguments. -/
def callOfItems (w : String) : String := w ++ "(xs,xs)"

/-- The JSON text of the call. -/
def quotedCall (w : String) : Template := ⟨"\"", [(callOfItems w, "\"")]⟩

/-- Global values with items, and a text to expand that calls a function with them. -/
def itemsAndCall (items : List Value) (w : String) : Globals.Store where
  entries := [(.text "xs", .list items),
    (.text "j", .mapping [(.text "format", .text "json"), (.text "value", .text (callOfItems w))])]

/-- What these global values resolve to. -/
def resolvedItems (items : List Value) (w : String) : List (Value × Globals.Resolution) :=
  [(.text "xs", .value (.list items)), (.text "j", .deferred (.text (callOfItems w)))]

lemma resolutions_itemsAndCall (items : List Value) (w : String) :
    Globals.resolutions (itemsAndCall items w).entries = .ok (resolvedItems items w) := by
  cbv

lemma render_callOfItems {w : String} (hw : PlainWord w) :
    Json.render .compact (.text (callOfItems w)) = .ok (quotedCall w).text := by
  have hplain (cs : List Char) (hcs : ∀ c ∈ cs, Json.stringChar c = [c]) :
      cs.flatMap Json.stringChar = cs := by
    rw [List.flatMap_congr hcs, List.flatMap_singleton']
  have htail : ∀ c ∈ "(xs,xs)".toList, Json.stringChar c = [c] := by
    simp [Json.stringChar, Json.shortEscape?]
  have hrender : Json.render .compact (.text (callOfItems w)) =
      .ok (String.ofList (Json.string (callOfItems w))) := rfl
  rw [hrender, Json.string, callOfItems, String.toList_append, List.flatMap_append, hplain _ hw,
    hplain _ htail]
  refine congrArg Except.ok (String.toList_injective ?_)
  simp [quotedCall, Template.text, Template.fill, Template.fillParts, Template.calls, callOfItems]

section

variable {functions : Functions} {re : Reentry} {w : String} {items : List Value}

lemma quotedCall_proper (hw : CallWord functions w) : (quotedCall w).Proper functions.isName := by
  have hquote : sigil ∉ "\"".toList := by decide
  exact ⟨hquote, fun part hpart => List.mem_singleton.mp hpart ▸
    ⟨hquote, _, _, _, parses_call_xs hw⟩⟩

/-- What the function for templates gives with the items as the template. -/
lemma run_invoke_items (more : Entries) {entry : RegistryEntry Callable} (hback : entry.HandsBack)
    (name : String) (frames : List Frame) :
    (Scope.invoke ⟨functions, (.text "xs", .list items) :: more, re⟩ name entry
      [.list items, .list items]).run ⟨Host.blank, frames⟩ =
        (interpretEach re (.list items) items Host.blank).map fun (r, h) =>
          ((r.map Value.list).mapError (callFailure name [.list items, .list items] frames),
            ⟨h, frames⟩) := by
  have hcall : forEach re [.list items, .list items] none (Host.blank.diagnose
      (callNote name entry [.list items, .list items])) =
        (interpretEach re (.list items) items Host.blank).map
          (Prod.map (Except.map .list) id) := rfl
  rw [run_invoke_handsBack hback, hcall, Option.map_map]
  rfl

/-- The call hands back the items as a template for each of them. -/
lemma run_callOfItems (more : Entries) (hw : BackWord functions w) :
    ∃ f, (Scope.run ⟨functions, (.text "xs", .list items) :: more, re⟩ (callOfItems w)).run
      ⟨Host.blank, []⟩ = (interpretEach re (.list items) items Host.blank).map fun (r, h) =>
        ((r.map Value.list).mapError f, ⟨h, []⟩) := by
  obtain ⟨entry, hentry, hback⟩ := hw.handsBack
  let sc : Scope := ⟨functions, (.text "xs", .list items) :: more, re⟩
  let source := if w.isEmpty then "@" ++ calledName w else w
  let args := [Value.list items, Value.list items]
  have hargs : (sc.evalArguments false [.ident "xs", .ident "xs"]).run
      ⟨Host.blank, [⟨source, []⟩]⟩ = some (.ok args, ⟨Host.blank, [⟨source, args⟩]⟩) := rfl
  have hcall : (sc.evalTop (.call (calledName w) w [.ident "xs", .ident "xs"])).run
      ⟨Host.blank, []⟩ = (interpretEach re (.list items) items Host.blank).map fun (r, h) =>
        ((r.map Value.list).mapError (callFailure (calledName w) args [⟨source, args⟩]),
          ⟨h, []⟩) := by
    have hlookup : sc.functions.lookup (calledName w) = some entry := hentry
    rw [evalTop_call hlookup, hback.2]
    change ((sc.evalArguments false _ >>= sc.invoke (calledName w) entry).run
      ⟨Host.blank, [⟨source, []⟩]⟩).map _ = _
    rw [run_bind_ok hargs, run_invoke_items more hback, Option.map_map]
    rfl
  refine ⟨callFailure (calledName w) args [⟨source, args⟩], ?_⟩
  have hparse : Parses sc.functions.isName (callOfItems w)
      [.call (calledName w) w [.ident "xs", .ident "xs"]] := parses_call_xs hw.callWord
  rw [run_of_parses hparse, Scope.eval, run_bind, hcall]
  cases interpretEach re (.list items) items Host.blank with
  | none => rfl
  | some p =>
      obtain ⟨e | values, h⟩ := p
      · rfl
      · rfl

/-- The JSON text of the call has a result if the interpreter of templates has one. -/
lemma run_expander_quotedCall (more : Entries) {run : Run} (hw : BackWord run.functions w) :
    (interpretEach run.reenter (.list items) items Host.blank = none →
      (run.expander (quotedCall w).text ((.text "xs", .list items) :: more)).run ⟨Host.blank, []⟩ =
        none) ∧
    ∀ values text, interpretEach run.reenter (.list items) items Host.blank =
      some (.ok values, Host.blank) → (Value.list values).toText = .ok text →
        ∃ v, (run.expander (quotedCall w).text ((.text "xs", .list items) :: more)).run
          ⟨Host.blank, []⟩ = some (.ok v, ⟨Host.blank, []⟩) := by
  let sc : Scope := ⟨run.functions, (.text "xs", .list items) :: more, run.reenter⟩
  obtain ⟨f, hcall⟩ := @run_callOfItems _ run.reenter _ items more hw
  obtain ⟨es, hes, hrun⟩ := @Template.Proper.run_eq sc _
    (quotedCall_proper hw.callWord) (by simp [quotedCall, Template.isSole])
  have hsigil : (quotedCall w).text.toList.contains sigil := by
    obtain ⟨cs, hcs⟩ := sigil_of_isCallWord hw.callWord.1
    simp [quotedCall, Template.text, Template.fill, Template.fillParts, Template.calls, callOfItems,
      hcs]
  have hexpand : (run.expander (quotedCall w).text ((.text "xs", .list items) :: more)).run
      ⟨Host.blank, []⟩ = ((sc.run (quotedCall w).text).run ⟨Host.blank, []⟩).map
        (Prod.map (Except.mapError (run.locate (quotedCall w).text)) id) := by
    rw [Run.expander, interpretString_of_sigil _ _ hsigil, run_mapFailure]
    rfl
  rw [hexpand, hrun, run_map]
  refine ⟨fun hnone => ?_, fun values text hvalues htext => ?_⟩
  · rw [hnone] at hcall
    cases hes with
    | cons hc _ _ =>
        rw [Scope.evalJoined, run_bind, evalTop_of_run_none hc hcall]
        rfl
  · rw [hvalues] at hcall
    rw [hes.run_evalJoined (.cons hcall .nil) (.cons htext .nil)]
    exact ⟨_, rfl⟩

/-- A value that every interpretation leaves as it is. -/
def Value.Inert (v : Value) : Prop := ∀ (run : Run) params, run.walk params v = pure v

/-- All that a call over these global values does for values that are left as they are is to expand
the text. -/
lemma start_carryOutBy_items {expand : Globals.Expander} {value : Value} {locals : Entries}
    (hw : PlainWord w) (hlocals : locals ≠ []) (hinert : Value.Inert (.mapping locals))
    (hvalue : value.Inert) :
    (Plan.carryOutBy functions re expand value (.mapping locals)
      (.proceed .standard (itemsAndCall items w).entries)).start Host.blank =
        ((expand (quotedCall w).text (Entries.update [(.text "xs", .list items)] locals)).run
          ⟨Host.blank, []⟩).map fun (r, t) => (r.map fun _ => value, t.host) := by
  let run := Run.ofLocals functions re (.mapping locals)
  have hplain : Globals.plainEntries (resolvedItems items w) = [(.text "xs", .list items)] := rfl
  have hinterpret : (run.interpretLocals .standard (.mapping locals)
      (Globals.plainEntries (resolvedItems items w))).run ⟨Host.blank, []⟩ =
        some (.ok (.mapping locals), ⟨Host.blank, []⟩) := by
    obtain ⟨parts, hrun⟩ := @run_interpretLocals run .standard Options.unlimited_standard locals
      hlocals (Globals.plainEntries (resolvedItems items w)) ⟨Host.blank, []⟩
    rw [hrun, hinert]
    rfl
  have hexpandAll (bindings : Entries) : Globals.expandAll expand bindings (resolvedItems items w) =
      (fun v => [(.text "xs", .list items), (.text "j", v)]) <$>
        expand (quotedCall w).text bindings := by
    simp only [resolvedItems, Globals.expandAll, render_callOfItems hw, ofFault_ok, pure_bind,
      bind_assoc, map_eq_pure_bind]
  have hlayer := @run_layerBy run expand .standard (.mapping locals) _ locals _ _ _
    (by simp [itemsAndCall]) (resolutions_itemsAndCall items w) hinterpret
  rw [hplain, hexpandAll, Functor.map_map, run_map] at hlayer
  have hsteps : Plan.carryOutBy functions re expand value (.mapping locals)
      (.proceed .standard (itemsAndCall items w).entries) =
        run.layerBy expand .standard (.mapping locals) (itemsAndCall items w).entries >>= fun _ =>
          pure value := by
    simp only [Plan.carryOutBy, hvalue _ _, run]
  rw [hsteps, Eval.start, run_bind, hlayer]
  cases (expand (quotedCall w).text _).run ⟨Host.blank, []⟩ with
  | none => rfl
  | some p =>
      obtain ⟨e | x, t⟩ := p
      · rfl
      · rfl

/-- Such a call has a result if the interpreter of templates has one for the items. -/
lemma start_carryOutBy_quotedCall (re re' : Reentry) {value : Value} {locals more : Entries}
    {items' : List Value} (hw : BackWord functions w) (hlocals : locals ≠ [])
    (hinert : Value.Inert (.mapping locals)) (hvalue : value.Inert)
    (hitems : Entries.update [(.text "xs", .list items)] locals =
      (.text "xs", .list items') :: more) :
    let result := (Plan.carryOutBy functions re
      (Run.ofLocals functions re' (.mapping locals)).expander value (.mapping locals)
        (.proceed .standard (itemsAndCall items w).entries)).start Host.blank
    (interpretEach re' (.list items') items' Host.blank = none → result = none) ∧
    ∀ values text, interpretEach re' (.list items') items' Host.blank =
      some (.ok values, Host.blank) → (Value.list values).toText = .ok text →
        result = some (.ok value, Host.blank) := by
  intro result
  have hresult : result = _ := start_carryOutBy_items hw.plain hlocals hinert hvalue
  rw [hitems] at hresult
  obtain ⟨hnone, hok⟩ := @run_expander_quotedCall w items' more
    (Run.ofLocals functions re' (.mapping locals)) hw
  refine ⟨fun heach => ?_, fun values text heach htext => ?_⟩
  · rw [hresult, hnone heach]
    rfl
  · obtain ⟨v, hv⟩ := hok values text heach htext
    rw [hresult, hv]
    rfl

end

/-! ### Nested expansions -/

/-- A template without expressions, and the items of a request. -/
def oneItem : List Value := [.null]

/-- A request without expressions. -/
def bringItems (items : List Value) : Request where
  value := .null
  locals := .mapping [(.text "xs", .list items)]

section

variable {functions : Functions} {re : Reentry} {w : String}

lemma inert_oneItem : Value.Inert (.list oneItem) := fun _ _ => rfl

lemma inert_itemParams : (itemParams .null).Inert := fun _ _ => rfl

lemma inert_bringItems : (bringItems oneItem).locals.Inert := fun _ _ => rfl

lemma interpretEach_oneItem (h : re (.list oneItem) (itemParams .null) Host.blank =
    some (.ok (.list oneItem), Host.blank)) :
    interpretEach re (.list oneItem) oneItem Host.blank =
      some (.ok [.list oneItem], Host.blank) := by
  rw [oneItem, interpretEach, ← oneItem, h]
  rfl

lemma interpretEach_oneItem_none (h : re (.list oneItem) (itemParams .null) Host.blank = none) :
    interpretEach re (.list oneItem) oneItem Host.blank = none := by
  rw [oneItem, interpretEach, ← oneItem, h]

/-- What a template over these global values gives. -/
lemma reentry_itemsAndCall (items : List Value) (depth : ℕ) (value locals : Value) (h : Host) :
    reentry functions (itemsAndCall items w) (depth + 1) value locals h =
      (Plan.carryOutBy functions (reentry functions (itemsAndCall items w) depth)
        (Run.ofLocals functions (reentry functions (itemsAndCall items w) depth) locals).expander
          value locals (.proceed .standard (itemsAndCall items w).entries)).start h := rfl

lemma reentryWithin_itemsAndCall (items : List Value) (depth bound : ℕ) (value locals : Value)
    (h : Host) :
    reentryWithin functions (itemsAndCall items w) (depth + 1) bound value locals h =
      (Plan.carryOutBy functions (reentryWithin functions (itemsAndCall items w) depth bound)
        (expanderWithin functions (reentryWithin functions (itemsAndCall items w) depth) locals
          bound) value locals (.proceed .standard (itemsAndCall items w).entries)).start h := rfl

lemma interpretTo_itemsAndCall (items : List Value) (depth : ℕ) (value locals : Value) (h : Host) :
    (Interpreter.interpretTo depth ⟨functions, itemsAndCall items w⟩
      { value := value, locals := locals } h).1 =
        reentry functions (itemsAndCall items w) (depth + 1) value locals h := rfl

lemma interpretToWithin_itemsAndCall (items : List Value) (bound depth : ℕ) (value locals : Value)
    (h : Host) :
    Interpreter.interpretToWithin bound depth ⟨functions, itemsAndCall items w⟩
      { value := value, locals := locals } h =
        reentryWithin functions (itemsAndCall items w) (depth + 1) bound value locals h := rfl

/-- Nothing is expanded where no expansion is left. -/
lemma reentryWithin_zero (hw : BackWord functions w) (items : List Value) (depth : ℕ) :
    reentryWithin functions (itemsAndCall items w) depth 0 (.list oneItem) (itemParams .null)
      Host.blank = none := by
  cases depth with
  | zero => rfl
  | succ depth =>
      rw [reentryWithin_itemsAndCall]
      exact start_carryOutBy_items hw.plain (List.cons_ne_nil _ _) inert_itemParams inert_oneItem

/-- Without items in the global values the text hands nothing back. -/
lemma reentry_no_items (hw : BackWord functions w) (depth : ℕ) :
    reentry functions (itemsAndCall [] w) (depth + 1) (.list oneItem) (itemParams .null)
      Host.blank = some (.ok (.list oneItem), Host.blank) := by
  have hresult := start_carryOutBy_quotedCall (reentry functions (itemsAndCall [] w) depth)
    (reentry functions (itemsAndCall [] w) depth) hw (List.cons_ne_nil _ _) inert_itemParams
      inert_oneItem (rfl : Entries.update [(.text "xs", .list [])] _ = _)
  exact hresult.2 [] "[]" rfl rfl

/-- With items in the global values every expansion hands back the next one. -/
lemma reentry_items (hw : BackWord functions w) (depth : ℕ) :
    reentry functions (itemsAndCall oneItem w) depth (.list oneItem) (itemParams .null)
      Host.blank = none := by
  induction depth with
  | zero => rfl
  | succ depth ih =>
      -- the template meets the global values again, one level less deep
      have hresult := start_carryOutBy_quotedCall (reentry functions (itemsAndCall oneItem w) depth)
        (reentry functions (itemsAndCall oneItem w) depth) hw (List.cons_ne_nil _ _)
          inert_itemParams inert_oneItem (rfl : Entries.update [(.text "xs", .list oneItem)] _ = _)
      exact hresult.1 (interpretEach_oneItem_none ih)

/-- The items that a request brings are handed back once if there are none in the global values, and
without end if there are. -/
lemma BackWord.nests (hw : BackWord functions w) (depth : ℕ) :
    (Interpreter.interpretTo (depth + 1) ⟨functions, itemsAndCall [] w⟩ (bringItems oneItem)
      Host.blank).1 = some (.ok .null, Host.blank) ∧
    Interpreter.interpretToWithin 1 (depth + 1) ⟨functions, itemsAndCall [] w⟩ (bringItems oneItem)
      Host.blank = none ∧
    (Interpreter.interpretTo depth ⟨functions, itemsAndCall oneItem w⟩ (bringItems oneItem)
      Host.blank).1 = none := by
  have hnull : Value.Inert .null := fun _ _ => rfl
  have hresult (store : List Value) (re re' : Reentry) :=
    start_carryOutBy_quotedCall re re' hw (List.cons_ne_nil _ _) inert_bringItems hnull
      (rfl : Entries.update [(.text "xs", .list store)] _ = (.text "xs", .list oneItem) :: _)
  refine ⟨?_, ?_, ?_⟩
  · rw [bringItems, interpretTo_itemsAndCall, reentry_itemsAndCall]
    exact (hresult [] _ _).2 [.list oneItem] "[[null]]"
      (interpretEach_oneItem (reentry_no_items hw depth)) rfl
  · rw [bringItems, interpretToWithin_itemsAndCall, reentryWithin_itemsAndCall]
    exact (hresult [] _ _).1 (interpretEach_oneItem_none (reentryWithin_zero hw [] _))
  · rw [bringItems, interpretTo_itemsAndCall, reentry_itemsAndCall]
    exact (hresult oneItem _ _).1 (interpretEach_oneItem_none (reentry_items hw depth))

lemma BackWord.not_neverNests (hw : BackWord functions w) : ¬ NeverNests functions := by
  intro hnever
  obtain ⟨hsome, hwithin, -⟩ := hw.nests 0
  have heq := hnever 1 (itemsAndCall [] w) (bringItems oneItem) Host.blank
  rw [hwithin, hsome] at heq
  cases heq

end

/-- **Expansions inside expansions.**  What the interpreter gives within a bound on the expansions
that are under way in one another, it gives, and it gives nothing else if the bound is above the
depth of templates.  If no text that is expanded calls a function that hands templates back, no
expansion takes place inside another one, and the expansions never keep a layering from having a
result.  A function that hands templates back, if it can be called in JSON, nests expansions, and
without end over some global values. -/
theorem expansion_nesting (functions : Functions) :
    (∀ bound depth store r h x,
      Interpreter.interpretToWithin bound depth ⟨functions, store⟩ r h = some x →
        (Interpreter.interpretTo depth ⟨functions, store⟩ r h).1 = some x) ∧
    (∀ bound depth store r h, depth < bound →
      Interpreter.interpretToWithin bound depth ⟨functions, store⟩ r h =
        (Interpreter.interpretTo depth ⟨functions, store⟩ r h).1) ∧
    (∀ depth store (r : Request) h,
      (∀ text ∈ Globals.jsonTexts (r.plan store).2.entries,
        CallsOnly (¬ ·.HandsBack) functions text) →
      Interpreter.interpretToWithin 1 depth ⟨functions, store⟩ r h =
        (Interpreter.interpretTo depth ⟨functions, store⟩ r h).1) ∧
    (∀ (run : Run) options locals globals, run.functions = functions →
      (∀ text ∈ Globals.jsonTexts globals, CallsOnly (¬ ·.HandsBack) functions text) →
      (∀ bindings, Total (run.interpretLocals options locals bindings)) →
        Total (run.layer options locals globals)) ∧
    (¬ HandsBack functions → NeverNests functions) ∧
    ∀ w, BackWord functions w → ¬ NeverNests functions ∧
      ∃ store r, ∀ depth,
        (Interpreter.interpretTo depth ⟨functions, store⟩ r Host.blank).1 = none := by
  have hquiet (depth : ℕ) (store : Globals.Store) (r : Request) (h : Host)
      (hkeeps : ∀ text ∈ Globals.jsonTexts (r.plan store).2.entries,
        CallsOnly (¬ ·.HandsBack) functions text) :
      Interpreter.interpretToWithin 1 depth ⟨functions, store⟩ r h =
        (Interpreter.interpretTo depth ⟨functions, store⟩ r h).1 := by
    refine Option.ext fun x => ⟨interpretWithin_below (reentryWithin_below depth), ?_⟩
    exact below_interpretWithin (below_reentryWithin hkeeps depth)
      fun p hp text htext => hkeeps text (Request.mem_jsonTexts hp htext)
  refine ⟨fun bound depth store r h x => ?_, fun bound depth store r h hdepth => ?_, hquiet, ?_,
    fun hkeeps depth store r h => ?_,
    fun w hw => ⟨hw.not_neverNests, itemsAndCall oneItem w, bringItems oneItem, fun depth => ?_⟩⟩
  · exact interpretWithin_below (reentryWithin_below depth)
  · exact interpretToWithin_eq functions hdepth store r h
  · rintro run options locals globals rfl hkeeps hlocals
    exact layer_total hkeeps hlocals
  · exact hquiet depth store r h fun text _ => callsOnly_of_not_handsBack hkeeps text
  · exact (hw.nests depth).2.2

lemma backWord_forof : BackWord Library.standard "@forof" :=
  ⟨by simp [PlainWord, Json.stringChar, Json.shortEscape?], callWord_forof, _, lookup_forof, rfl,
    rfl⟩

/-- A call of another function hands nothing back. -/
lemma callsOnly_getvalue : ∀ text ∈ Globals.jsonTexts (itemsAndCall oneItem "@gv").entries,
    CallsOnly (¬ ·.HandsBack) Library.standard text := by
  have htexts : Globals.jsonTexts (itemsAndCall oneItem "@gv").entries = ["\"@gv(xs,xs)\""] := by
    cbv
  have hparse : Parses Library.standard.isName "\"@gv(xs,xs)\""
      [.text "\"", .call "gv" "@gv" [.ident "xs", .ident "xs"], .text "\""] :=
    except_map_eq_ok.mp (by cbv)
  have hwants : (Library.standard.lookup (calledName "@gv")).map (·.wantsParams) = some true := by
    cbv
  have hname : Names (¬ ·.HandsBack) Library.standard "@gv" := by
    rintro entry hentry ⟨-, hback⟩
    rw [hentry, Option.map_some, hback] at hwants
    cases hwants
  rw [htexts]
  rintro text htext es ⟨tokens, htokens, hes⟩
  obtain rfl := List.mem_singleton.mp htext
  obtain ⟨tokens', htokens', hes'⟩ := hparse
  cases htokens'.symm.trans htokens
  cases hes'.symm.trans hes
  exact .cons .text (.cons (.call hname (.cons .ident (.cons .ident .nil))) (.cons .text .nil))

/-- The standard library nests expansions; without its function for templates it does not. -/
theorem expansion_nesting_standard :
    let store := itemsAndCall oneItem "@gv"
    let r := bringItems oneItem
    (Interpreter.interpretTo 0 ⟨Library.standard, ⟨[]⟩⟩ r Host.blank).1 =
        some (.ok .null, Host.blank) ∧
      Interpreter.interpretToWithin 2 1 ⟨Library.standard, store⟩ r Host.blank =
        (Interpreter.interpretTo 1 ⟨Library.standard, store⟩ r Host.blank).1 ∧
      Interpreter.interpretToWithin 1 1 ⟨Library.standard, store⟩ r Host.blank =
        (Interpreter.interpretTo 1 ⟨Library.standard, store⟩ r Host.blank).1 ∧
      Total ((Run.ofLocals Library.standard .never .null).layer .standard .null store.entries) ∧
      NeverNests ⟨Library.builtins.map Library.Builtin.entry⟩ ∧
      ¬ NeverNests Library.standard := by
  intro store r
  have hstandard := expansion_nesting Library.standard
  refine ⟨?_, ?_, ?_, ?_, ?_, ?_⟩
  · exact hstandard.1 0 0 ⟨[]⟩ r Host.blank _ rfl
  · exact hstandard.2.1 2 1 store r Host.blank (by decide)
  · exact hstandard.2.2.1 1 store r Host.blank callsOnly_getvalue
  · exact hstandard.2.2.2.1 _ .standard .null store.entries rfl callsOnly_getvalue fun _ _ => rfl
  · exact (expansion_nesting _).2.2.2.2.1 not_handsBack_builtins
  · exact (hstandard.2.2.2.2.2 _ backWord_forof).1

/-- A text that is expanded hands a template back, for which it is expanded again. -/
theorem forof_nests :
    let store (items : List Value) : Globals.Store := ⟨[(.text "xs", .list items),
      (.text "j", .mapping [(.text "format", .text "json"),
        (.text "value", .text "@forof(xs,xs)")])]⟩
    let r : Request := { value := .null, locals := .mapping [(.text "xs", .list [.null])] }
    (Interpreter.interpret ⟨Library.standard, store []⟩ r Host.blank).1 =
        some (.ok .null, Host.blank) ∧
      Interpreter.interpretToWithin 1 Interpreter.nestingLimit ⟨Library.standard, store []⟩ r
        Host.blank = none ∧
      (∀ depth, (Interpreter.interpretTo depth ⟨Library.standard, store [.null]⟩ r Host.blank).1 =
        none) ∧
      ¬ NeverNests Library.standard := by
  intro store r
  obtain ⟨hone, hwithin, -⟩ := backWord_forof.nests 999
  exact ⟨hone, hwithin, fun depth => (backWord_forof.nests depth).2.2,
    backWord_forof.not_neverNests⟩

end Sigil
