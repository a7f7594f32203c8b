/-
# What an evaluation hands back

The interpreter of templates is the only way in which an evaluation depends on more than its text,
its functions, its parameters and its session.  A step refines to another if every result of the
first is a result of the second.  Refinement is closed under the steps of an evaluation, so an
evaluation refines to the same evaluation with an interpreter of templates that has more results.

Only the functions that a call word names are ever called.  If none of them hands templates back,
the interpreter of templates does not matter at all.
-/
import Sigil.Proofs.Parametricity

namespace Sigil

open Eval

/-! ### Refining steps -/

/-- What is done with a result is done with the same result of another step. -/
lemma map_eq_some_mono {α β : Type} {x y : Option α} (h : ∀ a, x = some a → y = some a) (f : α → β)
    {b : β} (hb : x.map f = some b) : y.map f = some b := by
  obtain ⟨a, ha, rfl⟩ := Option.map_eq_some_iff.mp hb
  exact Option.map_eq_some_iff.mpr ⟨a, h a ha, rfl⟩

namespace Eval

variable {α β : Type}

/-- Every result of the first step is a result of the second. -/
def Refines (x y : Eval α) : Prop := ∀ s r, x.run s = some r → y.run s = some r

lemma Refines.refl (x : Eval α) : x.Refines x := fun _ _ h => h

lemma Refines.bind {x y : Eval α} {f g : α → Eval β} (h : x.Refines y)
    (hf : ∀ a, (f a).Refines (g a)) : (x >>= f).Refines (y >>= g) := by
  intro s r hr
  rw [run_bind, Option.bind_eq_some_iff] at hr
  obtain ⟨⟨p, t⟩, hx, hrest⟩ := hr
  rw [run_bind, h s _ hx]
  cases p with
  | error e => exact hrest
  | ok a => exact hf a t r hrest

lemma Refines.map {x y : Eval α} (h : x.Refines y) (f : α → β) : (f <$> x).Refines (f <$> y) := by
  rw [map_eq_pure_bind, map_eq_pure_bind]
  exact h.bind fun a => .refl _

lemma Refines.onHost {a b : Host → Option (Except Failure α × Host)}
    (h : ∀ host r, a host = some r → b host = some r) : (onHost a).Refines (onHost b) :=
  fun s _ hr => map_eq_some_mono (h s.host) _ hr

lemma Refines.within {x y : Eval α} (h : x.Refines y) (frame : Frame) :
    (within frame x).Refines (within frame y) :=
  fun s _ hr => map_eq_some_mono (h { s with frames := frame :: s.frames }) _ hr

lemma Refines.outcome {x y : Eval α} (h : x.Refines y) : (outcome x).Refines (outcome y) :=
  fun s _ hr => map_eq_some_mono (h s) _ hr

end Eval

/-! ### Interpreters of templates -/

/-- Every result of the first interpreter of templates is a result of the second. -/
def Reentry.Below (re re' : Reentry) : Prop :=
  ∀ template params h r, re template params h = some r → re' template params h = some r

/-- A registered function that hands templates back when it is called. -/
def RegistryEntry.HandsBack (entry : RegistryEntry Callable) : Prop :=
  entry.function = .forEach ∧ entry.wantsParams = false

/-- A call word names a function that hands templates back. -/
def HandsBack (functions : Functions) : Prop :=
  ∃ w entry, CallWord functions w ∧ functions.lookup (calledName w) = some entry ∧ entry.HandsBack

/-- A call of the function has with the second interpreter of templates the result that it has with
the first, if it has one. -/
def RegistryEntry.Below (entry : RegistryEntry Callable) (re re' : Reentry) : Prop :=
  ∀ args params h r, params.isSome = entry.wantsParams →
    entry.function.call re args params h = some r → entry.function.call re' args params h = some r

/-- So does every call of a function by a call word of the kind `W`. -/
def CallsBelow (W : String → Prop) (functions : Functions) (re re' : Reentry) : Prop :=
  ∀ w entry, W w → functions.lookup (calledName w) = some entry → entry.Below re re'

lemma interpretEach_below {re re' : Reentry} (hre : Reentry.Below re re') (template : Value)
    (items : List Value) {h : Host} {r : Except Failure (List Value) × Host}
    (hr : interpretEach re template items h = some r) :
    interpretEach re' template items h = some r := by
  induction items generalizing h r with
  | nil => exact hr
  | cons item rest ih =>
      rw [interpretEach] at hr ⊢
      cases hfirst : re template (itemParams item) h with
      | none => simp [hfirst] at hr
      | some p =>
          rw [hre _ _ _ _ hfirst]
          rw [hfirst] at hr
          obtain ⟨v | v, h'⟩ := p
          · exact hr
          · exact map_eq_some_mono (fun _ hq => ih hq) _ hr

lemma forEach_below {re re' : Reentry} (hre : Reentry.Below re re') {args : List Value}
    {params : Option Entries} {h : Host} {r : Except Failure Value × Host}
    (hr : forEach re args params h = some r) : forEach re' args params h = some r := by
  unfold forEach at hr ⊢
  split at hr
  · exact hr
  · split at hr
    · exact hr
    · exact map_eq_some_mono (fun _ hq => interpretEach_below hre _ _ hq) _ hr
  · exact hr

lemma CallsBelow.of_below {W : String → Prop} {functions : Functions} {re re' : Reentry}
    (hre : Reentry.Below re re') : CallsBelow W functions re re' := by
  intro w entry _ _ args params h r _ hr
  cases hf : entry.function with
  | function run => simpa only [hf, Callable.call] using hr
  | forEach =>
      simp only [hf, Callable.call] at hr ⊢
      exact forEach_below hre hr

/-- Given the parameters in force, the function for templates does not get to its templates. -/
lemma forEach_some (re : Reentry) (args : List Value) (entries : Entries) (h : Host) :
    forEach re args (some entries) h =
      some (.error (.fault forEachSignature.unexpectedParams), h) := rfl

/-- The function for templates keeps them if it is given the parameters in force. -/
lemma wantsParams_of_keeps {entry : RegistryEntry Callable} (hkeeps : ¬ entry.HandsBack)
    (hforEach : entry.function = .forEach) : entry.wantsParams = true := by
  by_contra hwants
  exact hkeeps ⟨hforEach, by simpa using hwants⟩

/-- A function that hands no templates back does not need an interpreter of templates. -/
lemma CallsBelow.of_keeps {functions : Functions} (re re' : Reentry) :
    CallsBelow (Names (¬ ·.HandsBack) functions) functions re re' := by
  intro w entry hw hentry args params h r hparams hr
  cases hf : entry.function with
  | function run => simpa only [hf, Callable.call] using hr
  | forEach =>
      have hwants := wantsParams_of_keeps (hw entry hentry) hf
      obtain ⟨entries, rfl⟩ := Option.isSome_iff_exists.mp (hparams.trans hwants)
      simpa only [hf, Callable.call, forEach_some] using hr

/-! ### Evaluations -/

section

variable {functions : Functions} {params : Entries} {re re' : Reentry}

/-- A function that hands templates back gives what the function for templates gives. -/
lemma run_invoke_handsBack {entry : RegistryEntry Callable} (hback : entry.HandsBack)
    (name : String) (args : List Value) (s : Session) :
    (Scope.invoke ⟨functions, params, re⟩ name entry args).run s =
      (forEach re args none (s.host.diagnose (callNote name entry args))).map
        (Prod.map (Except.mapError (callFailure name args s.frames))
          fun host => { s with host := host }) := by
  obtain ⟨key, function, wants⟩ := entry
  obtain ⟨rfl, rfl⟩ : function = .forEach ∧ wants = false := hback
  rw [run_invoke]
  rfl

lemma invoke_refines (name : String) {entry : RegistryEntry Callable}
    (hentry : entry.Below re re') (args : List Value) :
    (Scope.invoke ⟨functions, params, re⟩ name entry args).Refines
      (Scope.invoke ⟨functions, params, re'⟩ name entry args) := by
  have hcall := hentry args (if entry.wantsParams then some params else none)
  have hparams : (if entry.wantsParams then some params else none).isSome = entry.wantsParams := by
    split <;> simp_all
  exact .bind (.refl _) fun _ => .bind (.outcome (.onHost fun h r => hcall h r hparams)) fun _ =>
    .refl _

/-- Refinement is closed under the steps of an evaluation. -/
lemma Eval.Refines.stepClosed : Eval.StepClosed fun _ x y => x.Refines y where
  pure _ := .refl _
  fail _ _ _ := .refl _
  bind h hf := h.bind hf
  getenv _ := .refl _
  record _ := .refl _
  within frame h := h.within frame

/-- It is closed under the steps of two runs whose interpreters of templates are below each other
where they are called. -/
lemma Eval.Refines.runClosed {W : String → Prop} (hcalls : CallsBelow W functions re re')
    (locals : Value) : RunClosed (fun _ x y => x.Refines y) (fun _ x y => x.Refines y) W
      (Run.ofLocals functions re locals) (Run.ofLocals functions re' locals) :=
  Eval.Refines.stepClosed.runClosed rfl
    (fun _ w _ args hw hentry => invoke_refines _ (hcalls w _ hw hentry) args)
    (fun _ => .refl _) fun _ h => h.outcome.bind fun _ => .refl _

/-- What a planned call gives with the first interpreter of templates, it gives with the second. -/
lemma interpretPlanned_below_of_texts {W : String → Prop} (hcalls : CallsBelow W functions re re')
    {r : Request} {plan : Except Failure Plan}
    (hplan : ∀ p, plan = .ok p → ∀ text ∈ p.texts r.value r.locals, TextOver W functions text)
    {h : Host} {x : Except Failure Value × Host}
    (hx : interpretPlanned functions re r plan h = some x) :
    interpretPlanned functions re' r plan h = some x := by
  cases plan with
  | error e => exact hx
  | ok plan =>
      have hsteps : (plan.carryOut functions re r.value r.locals).Refines
          (plan.carryOut functions re' r.value r.locals) :=
        carryOut_related (Eval.Refines.runClosed hcalls r.locals) (hplan plan rfl)
      exact map_eq_some_mono (hsteps ⟨h, []⟩) _ hx

lemma interpretPlanned_below (hcalls : CallsBelow (CallWord functions) functions re re')
    {r : Request} {plan : Except Failure Plan} {h : Host} {x : Except Failure Value × Host}
    (hx : interpretPlanned functions re r plan h = some x) :
    interpretPlanned functions re' r plan h = some x :=
  interpretPlanned_below_of_texts hcalls (fun _ _ text _ => textOver_callWord functions text) hx

lemma callsOnly_of_not_handsBack (hkeeps : ¬ HandsBack functions) (text : String) :
    CallsOnly (¬ ·.HandsBack) functions text :=
  (textOver_callWord functions text).mono fun w hw entry hentry hback =>
    hkeeps ⟨w, entry, hw, hentry, hback⟩

/-- If no call word names a function that hands templates back, the interpreter of templates does
not matter. -/
lemma interpretPlanned_congr (hkeeps : ¬ HandsBack functions) (re re' : Reentry) (r : Request)
    (plan : Except Failure Plan) (h : Host) :
    interpretPlanned functions re r plan h = interpretPlanned functions re' r plan h := by
  have htexts (p : Plan) (_ : plan = .ok p) (text : String) (_ : text ∈ p.texts r.value r.locals) :=
    callsOnly_of_not_handsBack hkeeps text
  refine Option.ext fun x => ⟨fun hx => ?_, fun hx => ?_⟩
  · exact interpretPlanned_below_of_texts (.of_keeps re re') htexts hx
  · exact interpretPlanned_below_of_texts (.of_keeps re' re) htexts hx

end

/-- A call layers its parameters and interprets its value with them. -/
lemma interpretTo_of_walk {i : Interpreter} {r : Request} {options : Options}
    {globals params : Entries} {store : Globals.Store} {depth : ℕ} {h : Host} {t u : Session}
    {result : Except Failure Value}
    (hplan : r.plan i.store = (.ok (.proceed options globals), store))
    (hlayer : ((Run.ofLocals i.functions (reentry i.functions store depth) r.locals).layer options
      r.locals globals).run ⟨h, []⟩ = some (.ok params, t))
    (hwalk : ((Run.ofLocals i.functions (reentry i.functions store depth) r.locals).walk params
      r.value).run t = some (result, u)) :
    (i.interpretTo depth r h).1 = some (result, u.host) := by
  rw [Interpreter.interpretTo, hplan]
  exact Option.map_eq_some_iff.mpr ⟨_, (run_bind_ok hlayer _).trans hwalk, rfl⟩

/-! ### Evaluations without templates -/

namespace Eval

/-- The step has a result. -/
def Total {α : Type} (x : Eval α) : Prop := ∀ s, (x.run s).isSome

lemma Total.bind {α β : Type} {x : Eval α} {f : α → Eval β} (hx : Total x)
    (hf : ∀ a, Total (f a)) : Total (x >>= f) := by
  intro s
  obtain ⟨⟨e | a, t⟩, hrun⟩ := Option.isSome_iff_exists.mp (hx s)
  · rw [run_bind_error hrun]
    rfl
  · rw [run_bind_ok hrun]
    exact hf a t

/-- Having a result is closed under the steps of an evaluation. -/
lemma Total.stepClosed : StepClosed fun _ x _ => Total x where
  pure _ _ := rfl
  fail _ _ _ _ := rfl
  bind hx hf := hx.bind hf
  getenv _ _ := rfl
  record _ _ := rfl
  within _ hx _ := (Option.isSome_map ..).trans (hx _)

end Eval

lemma call_isSome {entry : RegistryEntry Callable} (hkeeps : ¬ entry.HandsBack) (re : Reentry)
    (args : List Value) (params : Entries) (h : Host) :
    (entry.function.call re args (if entry.wantsParams then some params else none) h).isSome := by
  cases hf : entry.function with
  | function run => rfl
  | forEach =>
      rw [wantsParams_of_keeps hkeeps hf]
      rfl

/-- It is closed under the steps of a run over texts that hand no templates back. -/
lemma Eval.Total.runClosed (run : Run) : RunClosed (fun _ x _ => Total x) (fun _ x _ => Total x)
    (Names (¬ ·.HandsBack) run.functions) run run :=
  Eval.Total.stepClosed.runClosed rfl
    (fun params w entry args hw hentry s => by
      rw [run_invoke, Option.isSome_map]
      exact call_isSome (hw entry hentry) _ args params _)
    (fun _ _ => rfl) fun _ hx s => by
      rw [run_mapFailure, Option.isSome_map]
      exact hx s

/-- A planned call whose texts hand no templates back has a result. -/
lemma interpretPlanned_isSome {functions : Functions} {r : Request} {plan : Except Failure Plan}
    (hplan : ∀ p, plan = .ok p → ∀ text ∈ p.texts r.value r.locals,
      CallsOnly (¬ ·.HandsBack) functions text) (re : Reentry) (h : Host) :
    (interpretPlanned functions re r plan h).isSome := by
  cases plan with
  | error e => rfl
  | ok plan =>
      have hsteps : Eval.Total (plan.carryOut functions re r.value r.locals) :=
        carryOut_related (Eval.Total.runClosed (Run.ofLocals functions re r.locals))
          (hplan plan rfl)
      exact (Option.isSome_map ..).trans (hsteps ⟨h, []⟩)

/-- A template that has a result at a depth of nesting has it at every greater depth. -/
theorem reentry_below (functions : Functions) (store : Globals.Store) {depth depth' : ℕ}
    (hle : depth ≤ depth') :
    Reentry.Below (reentry functions store depth) (reentry functions store depth') := by
  induction depth generalizing depth' with
  | zero =>
      intro _ _ _ _ hr
      simp [reentry] at hr
  | succ depth ih =>
      obtain ⟨depth', rfl⟩ := Nat.exists_eq_succ_of_ne_zero (show depth' ≠ 0 by omega)
      intro template params h r hr
      rw [reentry] at hr ⊢
      exact interpretPlanned_below (.of_below (ih (by omega))) hr

end Sigil
