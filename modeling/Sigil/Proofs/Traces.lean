/-
# The calls under way when a function fails

An evaluation breaks down at one place: a function raises an error, or an expression has no value.
The calls under way at that moment lead from an expression at the top level down to this place, each
with the values of the arguments before the one that leads on.  The error of a function is wrapped
once, where it is raised, with the trace of these calls; no call further out wraps it again, and
what is not the error of a function is not wrapped at all.

The frames of an evaluation are its calls under way.  A call adds a frame, its arguments are added
to that frame alone, and the frame is gone when the call has ended, however it ends.
-/
import Sigil.Proofs.Parametricity
import Sigil.Proofs.Scalars
import Sigil.Proofs.Templates

namespace Sigil

open Eval

namespace Eval

variable {α β : Type}

/-- From a host the step yields a value and leaves a host behind, whatever calls are under way, and
leaves these as they are. -/
def Yields (x : Eval α) (h : Host) (a : α) (h' : Host) : Prop :=
  ∀ frames, x.run ⟨h, frames⟩ = some (.ok a, ⟨h', frames⟩)

lemma yields_pure (a : α) (h : Host) : Yields (pure a) h a h := fun _ => rfl

lemma Yields.map {x : Eval α} {h h' : Host} {a : α} (hx : Yields x h a h') (f : α → β) :
    Yields (f <$> x) h (f a) h' := fun frames => by rw [run_map, hx frames]; rfl

lemma Yields.bind {x : Eval α} {f : α → Eval β} {h h₁ h₂ : Host} {a : α} {b : β}
    (hx : Yields x h a h₁) (hf : Yields (f a) h₁ b h₂) : Yields (x >>= f) h b h₂ :=
  fun frames => by rw [run_bind_ok (hx frames), hf frames]

lemma Yields.frames_eq {x : Eval α} {s t : Session} {h' : Host} {a b : α}
    (hx : Yields x s.host a h') (hrun : x.run s = some (.ok b, t)) : t.frames = s.frames := by
  have heq := Option.some.inj (hrun.symm.trans (hx s.frames))
  exact congrArg (·.2.frames) heq

end Eval

/-! ### Arguments -/

/-- The frame of a call with the arguments that it has so far. -/
def callFrame (name source : String) (args : List Value) : Frame :=
  ⟨if source.isEmpty then "@" ++ name else source, args⟩

/-- A frame with more arguments. -/
def Frame.add (frame : Frame) (more : List Value) : Frame :=
  { frame with arguments := frame.arguments ++ more }

@[simp] lemma callFrame_add (name source : String) (args more : List Value) :
    (callFrame name source args).add more = callFrame name source (args ++ more) := rfl

@[simp] lemma Frame.add_nil (frame : Frame) : frame.add [] = frame := by simp [Frame.add]

@[simp] lemma Frame.add_add (frame : Frame) (more last : List Value) :
    (frame.add more).add last = frame.add (more ++ last) := by simp [Frame.add]

namespace Scope

/-- The value of an expression as an argument: a function that wants the parameters takes a bare
name as the key itself. -/
def argument (sc : Scope) (wants : Bool) (node : Node) : Eval Value :=
  match wants, node.ident? with
  | true, some name => pure (.text name)
  | _, _ => do
    let v ← sc.evalNode node
    pure (stripQuotes v)

lemma evalArguments_cons (sc : Scope) (wants : Bool) (node : Node) (rest : List Node) :
    sc.evalArguments wants (node :: rest) = (sc.argument wants node >>= fun v =>
      record v >>= fun _ => (v :: ·) <$> sc.evalArguments wants rest) := by
  rw [evalArguments.eq_def]
  cases wants with
  | false => simp only [argument, map_eq_pure_bind, bind_assoc, pure_bind]
  | true =>
      cases hident : node.ident? with
      | none => simp only [argument, hident, map_eq_pure_bind, bind_assoc, pure_bind]
      | some name => simp only [argument, hident, map_eq_pure_bind, pure_bind]

lemma argument_key (sc : Scope) {node : Node} {name : String} (h : node.ident? = some name) :
    sc.argument true node = pure (.text name) := by
  simp only [argument, h]

/-- An argument that is not taken as a key is evaluated. -/
lemma argument_eval (sc : Scope) {wants : Bool} {node : Node}
    (h : wants = true → node.ident? = none) :
    sc.argument wants node = stripQuotes <$> sc.evalNode node := by
  unfold argument
  split
  · next hident => simp [h rfl] at hident
  · exact (map_eq_pure_bind _ _).symm

/-- The arguments have these values, from left to right. -/
inductive Binds (sc : Scope) (wants : Bool) : List Node → Host → List Value → Host → Prop
  | nil {h : Host} : Binds sc wants [] h [] h
  | cons {node : Node} {rest : List Node} {h h₁ h₂ : Host} {v : Value} {values : List Value} :
      Yields (sc.argument wants node) h v h₁ → Binds sc wants rest h₁ values h₂ →
      Binds sc wants (node :: rest) h (v :: values) h₂

variable {sc : Scope} {wants : Bool} {h h₁ h₂ : Host}

lemma run_record (v : Value) (h : Host) (frame : Frame) (outer : List Frame) :
    (record v).run ⟨h, frame :: outer⟩ = some (.ok (), ⟨h, frame.add [v] :: outer⟩) := rfl

/-- Arguments with values are added to the innermost frame; what follows is evaluated in it. -/
lemma Binds.run_append {before : List Node} {values : List Value}
    (hbefore : sc.Binds wants before h values h₁) (after : List Node) (frame : Frame)
    (outer : List Frame) :
    (sc.evalArguments wants (before ++ after)).run ⟨h, frame :: outer⟩ =
      ((values ++ ·) <$> sc.evalArguments wants after).run
        ⟨h₁, frame.add values :: outer⟩ := by
  induction hbefore generalizing frame with
  | nil => simp
  | cons hv _ ih =>
      rw [List.cons_append, evalArguments_cons, run_bind_ok (hv _),
        run_bind_ok (run_record _ _ _ _), run_map, ih, ← run_map, Functor.map_map]
      simp

lemma Binds.run {args : List Node} {values : List Value} (hargs : sc.Binds wants args h values h₁)
    (frame : Frame) (outer : List Frame) :
    (sc.evalArguments wants args).run ⟨h, frame :: outer⟩ =
      some (.ok values, ⟨h₁, frame.add values :: outer⟩) := by
  have hrun := hargs.run_append [] frame outer
  rw [List.append_nil] at hrun
  rw [hrun, run_map]
  simp [evalArguments, Except.map]

/-! ### Calls -/

/-- A call of a registered function evaluates the arguments in a frame of its own. -/
lemma evalNode_call {name : String} {entry : RegistryEntry Callable}
    (h : sc.functions.lookup name = some entry) (source : String) (args : List Node) :
    sc.evalNode (.call name source args) = within (callFrame name source [])
      (sc.evalArguments entry.wantsParams args >>= sc.invoke name entry) := by
  rw [evalNode, dispatch, h]
  rfl

lemma evalNode_call_of_none {name : String} (h : sc.functions.lookup name = none) (source : String)
    (args : List Node) : sc.evalNode (.call name source args) =
      within (callFrame name source []) (Eval.ofExcept (.error (notRegistered name))) := by
  rw [evalNode, dispatch, h]
  rfl

/-- What the callable of an entry does when it is called with arguments. -/
def callResult (sc : Scope) (name : String) (entry : RegistryEntry Callable) (args : List Value)
    (h : Host) : Option (Except Failure Value × Host) :=
  entry.function.call sc.reenter args (if entry.wantsParams then some sc.params else none)
    (h.diagnose (callNote name entry args))

lemma run_invoke_callResult (name : String) (entry : RegistryEntry Callable) (args : List Value)
    (s : Session) : (sc.invoke name entry args).run s =
      (sc.callResult name entry args s.host).map fun (r, host) =>
        (r.mapError (callFailure name args s.frames), { s with host := host }) :=
  run_invoke sc name entry args s

/-- Once the arguments of a call are bound, the call ends as the callable does, if that has an end;
the frame with the arguments is the innermost one while it is under way, and is gone afterwards. -/
lemma Binds.run_evalNode {args : List Node} {values : List Value} {name source : String}
    {entry : RegistryEntry Callable} (hentry : sc.functions.lookup name = some entry)
    (hargs : sc.Binds entry.wantsParams args h values h₁) (frames : List Frame) :
    (sc.evalNode (.call name source args)).run ⟨h, frames⟩ =
      (sc.callResult name entry values h₁).map fun (r, h₂) =>
        (r.mapError (callFailure name values (callFrame name source values :: frames)),
          ⟨h₂, frames⟩) := by
  have hstep : (sc.evalArguments entry.wantsParams args >>= sc.invoke name entry).run
      ⟨h, callFrame name source [] :: frames⟩ =
        (sc.callResult name entry values h₁).map fun (r, h₂) =>
          (r.mapError (callFailure name values (callFrame name source values :: frames)),
            ⟨h₂, callFrame name source values :: frames⟩) := by
    rw [run_bind_ok (hargs.run _ _), run_invoke_callResult]
    rfl
  rw [evalNode_call hentry]
  refine (congrArg (Option.map _) hstep).trans ?_
  rw [Option.map_map]
  rfl

lemma Binds.run_call {args : List Node} {values : List Value} {name source : String}
    {entry : RegistryEntry Callable} {r : Except Failure Value}
    (hentry : sc.functions.lookup name = some entry)
    (hargs : sc.Binds entry.wantsParams args h values h₁)
    (hcall : sc.callResult name entry values h₁ = some (r, h₂)) (frames : List Frame) :
    (sc.evalNode (.call name source args)).run ⟨h, frames⟩ =
      some (r.mapError (callFailure name values (callFrame name source values :: frames)),
        ⟨h₂, frames⟩) := by
  rw [hargs.run_evalNode hentry, hcall]
  rfl

/-! ### Breakdowns -/

/-- Why an evaluation breaks down. -/
inductive Breakdown where
  /-- The function that is called with these arguments fails with this cause. -/
  | raised (function : String) (arguments : List Value) (cause : Failure)
  /-- What is evaluated has no value for another reason. -/
  | unwrapped (failure : Failure)

/-- The failure that a breakdown amounts to while these calls are under way, the innermost first. -/
def Breakdown.failure (frames : List Frame) : Breakdown → Failure
  | raised function arguments cause => callFailure function arguments frames cause
  | unwrapped failure => failure

/-- The name has no value: it is not that of a parameter, of a constant or of an environment
variable. -/
def Lacks (sc : Scope) (name : String) : Prop :=
  Entries.getText? sc.params name = none ∧ Entries.getText? constants name = none ∧
    environmentName? name = none

/-- The evaluation of an expression breaks down: the calls that lead down from the expression to the
place where it does, the outermost first, each with the arguments that it has by then. -/
inductive Breaks (sc : Scope) : Node → Host → List Frame → Breakdown → Host → Prop
  /-- All arguments of the call have values, and the callable fails. -/
  | raised {name source : String} {args : List Node} {entry : RegistryEntry Callable}
      {values : List Value} {cause : Failure} {h h₁ h₂ : Host} :
      sc.functions.lookup name = some entry → sc.Binds entry.wantsParams args h values h₁ →
      sc.callResult name entry values h₁ = some (.error cause, h₂) →
      Breaks sc (.call name source args) h [callFrame name source values]
        (.raised name values cause) h₂
  /-- The arguments before one have values, and the evaluation of this one breaks down. -/
  | argument {name source : String} {before after : List Node} {node : Node}
      {entry : RegistryEntry Callable} {values : List Value} {path : List Frame} {b : Breakdown}
      {h h₁ h₂ : Host} :
      sc.functions.lookup name = some entry → sc.Binds entry.wantsParams before h values h₁ →
      (entry.wantsParams = true → node.ident? = none) → Breaks sc node h₁ path b h₂ →
      Breaks sc (.call name source (before ++ node :: after)) h
        (callFrame name source values :: path) b h₂
  /-- No function is registered under the name of the call. -/
  | unregistered {name source : String} {args : List Node} {h : Host} :
      sc.functions.lookup name = none →
      Breaks sc (.call name source args) h [callFrame name source []]
        (.unwrapped (notRegistered name)) h
  /-- The name has no value. -/
  | undefined {name : String} {h : Host} : sc.Lacks name →
      Breaks sc (.ident name) h [] (.unwrapped (.undefined name none)) h
  /-- The number has no value. -/
  | number {s : String} {f : Fault} {h : Host} : numberLiteral s = .error f →
      Breaks sc (.number s) h [] (.unwrapped (.fault f)) h
  /-- What stands in the place of the expression is none. -/
  | foreign {v : Value} {h : Host} :
      Breaks sc (.foreign v) h [] (.unwrapped (.fault (notEvaluable v))) h

lemma lookup_of_lacks {name : String} (h : sc.Lacks name) :
    sc.lookup name = Eval.ofExcept (.error (.undefined name none)) := by
  obtain ⟨hparams, hconstants, henvironment⟩ := h
  simp [lookup, hparams, hconstants, henvironment]

/-- Every other name yields its value. -/
lemma exists_yields_lookup {name : String} (hname : ¬ sc.Lacks name) (h : Host) :
    ∃ v, Yields (sc.lookup name) h v h := by
  unfold lookup
  split
  · exact ⟨_, yields_pure _ _⟩
  · next hor =>
      obtain ⟨hparams, hconstants⟩ := Option.or_eq_none_iff.mp hor
      split
      · next key _ => exact ⟨.text (h.getenv key), fun frames => run_onHost rfl⟩
      · next henvironment => exact absurd ⟨hparams, hconstants, henvironment⟩ hname

/-- Where the evaluation breaks down in an argument, that is how the arguments end. -/
lemma Binds.run_arguments_error {before : List Node} {values : List Value} {node : Node}
    {e : Failure} {t : Session} (hbefore : sc.Binds wants before h values h₁)
    (hnode : wants = true → node.ident? = none) (after : List Node) (frame : Frame)
    (outer : List Frame)
    (hrun : (sc.evalNode node).run ⟨h₁, frame.add values :: outer⟩ = some (.error e, t)) :
    (sc.evalArguments wants (before ++ node :: after)).run ⟨h, frame :: outer⟩ =
      some (.error e, t) := by
  rw [hbefore.run_append, run_map_eq_error, evalArguments_cons, argument_eval sc hnode]
  exact run_bind_error (run_map_eq_error.mpr hrun) _

/-- The failure of a breakdown is the one of its place: the calls that lead down to it stand above
those that were under way, and these are under way again afterwards. -/
lemma Breaks.run {node : Node} {path : List Frame} {b : Breakdown}
    (hbreak : sc.Breaks node h path b h₁) (frames : List Frame) :
    (sc.evalNode node).run ⟨h, frames⟩ =
      some (.error (b.failure (path.reverse ++ frames)), ⟨h₁, frames⟩) := by
  -- for all calls under way, since an argument is evaluated above the frame of its own call
  induction hbreak generalizing frames with
  | raised hentry hargs hcall => exact hargs.run_call hentry hcall frames
  | @argument name source before after node entry values path b h h₁ h₂ hentry hbefore hnode _ ih =>
      rw [evalNode_call hentry]
      refine run_within ⟨h, frames⟩ _ (t := ⟨h₂, callFrame name source values :: frames⟩) ?_
      refine run_bind_error (hbefore.run_arguments_error hnode after _ _ ?_) _
      simpa using ih (callFrame name source values :: frames)
  | unregistered hentry => rw [evalNode_call_of_none hentry]; rfl
  | undefined hname => rw [evalNode, lookup_of_lacks hname]; rfl
  | number hs => rw [evalNode, hs]; rfl
  | foreign => rw [evalNode]; rfl

/-! ### How evaluations end -/

/-- How an expression ends: with a value, or by breaking down. -/
def NodeEnds (sc : Scope) (node : Node) (h h' : Host) : Except Failure Value → Prop
  | .ok v => Yields (sc.evalNode node) h v h'
  | .error _ => ∃ path b, sc.Breaks node h path b h'

/-- How arguments end: with values, or by breaking down in one of them that is evaluated after the
ones before it. -/
def ArgumentsEnd (sc : Scope) (wants : Bool) (args : List Node) (h h' : Host) :
    Except Failure (List Value) → Prop
  | .ok values => sc.Binds wants args h values h'
  | .error _ => ∃ before node after values h₁ path b, args = before ++ node :: after ∧
      sc.Binds wants before h values h₁ ∧ (wants = true → node.ident? = none) ∧
      sc.Breaks node h₁ path b h'

variable {frames : List Frame} {t : Session}

lemma NodeEnds.of_yields {node : Node} {v : Value} {r : Except Failure Value}
    (hv : Yields (sc.evalNode node) h v h₁)
    (hrun : (sc.evalNode node).run ⟨h, frames⟩ = some (r, t)) : sc.NodeEnds node h t.host r := by
  rw [hv] at hrun
  cases hrun
  exact hv

lemma NodeEnds.of_breaks {node : Node} {path : List Frame} {b : Breakdown}
    {r : Except Failure Value} (hbreak : sc.Breaks node h path b h₁)
    (hrun : (sc.evalNode node).run ⟨h, frames⟩ = some (r, t)) : sc.NodeEnds node h t.host r := by
  rw [hbreak.run] at hrun
  cases hrun
  exact ⟨path, b, hbreak⟩

/-- A call ends as its arguments do, or as its callable does. -/
lemma NodeEnds.of_call {name source : String} {args : List Node} {entry : RegistryEntry Callable}
    {r : Except Failure Value} (hentry : sc.functions.lookup name = some entry)
    (hargs : ∀ {frame outer r u}, (sc.evalArguments entry.wantsParams args).run
      ⟨h, frame :: outer⟩ = some (r, u) → sc.ArgumentsEnd entry.wantsParams args h u.host r)
    (hrun : (sc.evalNode (.call name source args)).run ⟨h, frames⟩ = some (r, t)) :
    sc.NodeEnds (.call name source args) h t.host r := by
  -- only how the parts of the call end is read off the run; how the call ends follows from them
  have hwithin := hrun
  rw [evalNode_call hentry] at hwithin
  obtain ⟨⟨r', t'⟩, hinner, -⟩ := Option.map_eq_some_iff.mp hwithin
  change (_ >>= _ : Eval Value).run ⟨h, callFrame name source [] :: frames⟩ = _ at hinner
  rw [run_bind] at hinner
  obtain ⟨⟨e | values, u⟩, hrunargs, hinvoke⟩ := Option.bind_eq_some_iff.mp hinner
  · obtain ⟨before, node, after, values, h₁, path, b, rfl, hbefore, hnode, hbreak⟩ :=
      hargs hrunargs
    exact .of_breaks (.argument hentry hbefore hnode hbreak) hrun
  · have hbinds : sc.Binds entry.wantsParams args h values u.host := hargs hrunargs
    dsimp only at hinvoke
    rw [run_invoke_callResult] at hinvoke
    obtain ⟨⟨e | v, host⟩, hcall, -⟩ := Option.map_eq_some_iff.mp hinvoke
    · exact .of_breaks (.raised hentry hbinds hcall) hrun
    · exact .of_yields (hbinds.run_call hentry hcall) hrun

lemma ArgumentsEnd.nil {r : Except Failure (List Value)}
    (hrun : (sc.evalArguments wants []).run ⟨h, frames⟩ = some (r, t)) :
    sc.ArgumentsEnd wants [] h t.host r := by
  rw [evalArguments] at hrun
  cases hrun
  exact Binds.nil

/-- The first argument is a key, or it ends as an expression does; only if it has a value are the
further ones evaluated, with it in the frame. -/
lemma ArgumentsEnd.cons {node : Node} {rest : List Node} {frame : Frame} {outer : List Frame}
    {r : Except Failure (List Value)}
    (hnode : ∀ {frames r u}, (sc.evalNode node).run ⟨h, frames⟩ = some (r, u) →
      sc.NodeEnds node h u.host r)
    (hrest : ∀ {h frame outer r u}, (sc.evalArguments wants rest).run ⟨h, frame :: outer⟩ =
      some (r, u) → sc.ArgumentsEnd wants rest h u.host r)
    (hrun : (sc.evalArguments wants (node :: rest)).run ⟨h, frame :: outer⟩ = some (r, t)) :
    sc.ArgumentsEnd wants (node :: rest) h t.host r := by
  -- what follows an argument with a value
  have hmore {v : Value} {h₁ : Host} (hv : Yields (sc.argument wants node) h v h₁) :
      sc.ArgumentsEnd wants (node :: rest) h t.host r := by
    rw [evalArguments_cons, run_bind_ok (hv _), run_bind_ok (run_record _ _ _ _), run_map] at hrun
    obtain ⟨⟨e | values, u⟩, hrunrest, heq⟩ := Option.map_eq_some_iff.mp hrun
    · cases heq
      obtain ⟨before, node', after, values, h₂, path, b, rfl, hbefore, hnode', hbreak⟩ :=
        hrest hrunrest
      exact ⟨node :: before, node', after, v :: values, h₂, path, b, rfl, Binds.cons hv hbefore,
        hnode', hbreak⟩
    · cases heq
      exact Binds.cons hv (hrest hrunrest)
  by_cases hkey : wants = true → node.ident? = none
  · rw [evalArguments_cons, argument_eval sc hkey, run_bind, run_map] at hrun
    obtain ⟨p, hp, hp'⟩ := Option.bind_eq_some_iff.mp hrun
    obtain ⟨⟨e | v, u⟩, hrunnode, rfl⟩ := Option.map_eq_some_iff.mp hp
    · cases hp'
      obtain ⟨path, b, hbreak⟩ := hnode hrunnode
      exact ⟨[], node, rest, [], h, path, b, rfl, .nil, hkey, hbreak⟩
    · have hv : Yields (sc.evalNode node) h v u.host := hnode hrunnode
      exact hmore (argument_eval sc hkey ▸ hv.map stripQuotes)
  · obtain ⟨rfl, name, hname⟩ : wants = true ∧ ∃ name, node.ident? = some name := by
      simpa [Option.ne_none_iff_exists'] using hkey
    exact hmore (argument_key sc hname ▸ yields_pure _ _)

mutual

/-- An expression ends with a value that does not depend on the calls under way, or breaks down. -/
lemma evalNode_ends : (node : Node) → ∀ {h : Host} {frames : List Frame}
    {r : Except Failure Value} {t : Session},
    (sc.evalNode node).run ⟨h, frames⟩ = some (r, t) → sc.NodeEnds node h t.host r
  | .text _, _, _, _, _, hrun | .string _, _, _, _, _, hrun =>
      .of_yields (by rw [evalNode]; exact yields_pure _ _) hrun
  | .number s, _, _, _, _, hrun => by
      cases hs : numberLiteral s with
      | ok v => exact .of_yields (by rw [evalNode, hs]; exact yields_pure _ _) hrun
      | error f => exact .of_breaks (.number hs) hrun
  | .ident name, h, _, _, _, hrun => by
      by_cases hname : sc.Lacks name
      · exact .of_breaks (.undefined hname) hrun
      · obtain ⟨v, hv⟩ := exists_yields_lookup hname h
        exact .of_yields (by rwa [evalNode]) hrun
  | .foreign v, _, _, _, _, hrun => .of_breaks .foreign hrun
  | .call name source args, _, _, _, _, hrun => by
      cases hentry : sc.functions.lookup name with
      | none => exact .of_breaks (.unregistered hentry) hrun
      | some entry =>
          exact .of_call hentry (evalArguments_ends args) hrun

/-- Arguments end with values, or one of them breaks down. -/
lemma evalArguments_ends : (args : List Node) → ∀ {wants : Bool} {h : Host} {frame : Frame}
    {outer : List Frame} {r : Except Failure (List Value)} {t : Session},
    (sc.evalArguments wants args).run ⟨h, frame :: outer⟩ = some (r, t) →
      sc.ArgumentsEnd wants args h t.host r
  | [], _, _, _, _, _, _, hrun => .nil hrun
  | node :: rest, _, _, _, _, _, _, hrun =>
      .cons (evalNode_ends node) (evalArguments_ends rest) hrun

end

/-! ### Lists of expressions -/

/-- The evaluation of a list of expressions breaks down, after the expressions before one have been
joined to a text. -/
inductive EvalBreaks (sc : Scope) : List Node → Host → List Frame → Breakdown → Host → Prop
  /-- The evaluation of this one breaks down; a number at the top level is literal text. -/
  | node {before after : List Node} {node : Node} {text : String} {path : List Frame}
      {b : Breakdown} {h h₁ h₂ : Host} :
      Yields (sc.evalJoined before) h text h₁ → (∀ s, node ≠ .number s) →
      Breaks sc node h₁ path b h₂ → EvalBreaks sc (before ++ node :: after) h path b h₂
  /-- The value of this one has no text although it is to be joined with the others. -/
  | joining {before after : List Node} {node : Node} {text : String} {v : Value} {f : Fault}
      {h h₁ h₂ : Host} :
      Yields (sc.evalJoined before) h text h₁ → Yields (sc.evalTop node) h₁ v h₂ →
      v.toText = .error f → before ++ after ≠ [] →
      EvalBreaks sc (before ++ node :: after) h [] (.unwrapped (.fault f)) h₂

lemma evalTop_of_ne_number {node : Node} (h : ∀ s, node ≠ .number s) :
    sc.evalTop node = sc.evalNode node := by
  cases node with
  | number s => exact absurd rfl (h s)
  | text s => rw [evalTop, evalNode]
  | string s => rw [evalTop, evalNode]
  | ident name => rfl
  | call name source args => rfl
  | foreign v => rfl

lemma evalTop_ends {node : Node} {r : Except Failure Value}
    (hrun : (sc.evalTop node).run ⟨h, frames⟩ = some (r, t)) : match r with
      | .ok v => Yields (sc.evalTop node) h v t.host
      | .error _ => (∀ s, node ≠ .number s) ∧ ∃ path b, sc.Breaks node h path b t.host := by
  by_cases hnumber : ∀ s, node ≠ .number s
  · have hends := evalNode_ends node (evalTop_of_ne_number hnumber ▸ hrun)
    cases r with
    | ok v =>
        change Yields _ h v t.host
        rw [evalTop_of_ne_number hnumber]
        exact hends
    | error e => exact ⟨hnumber, hends⟩
  · obtain ⟨s, rfl⟩ : ∃ s, node = .number s := by simpa using hnumber
    cases hrun
    exact yields_pure _ _

lemma evalJoined_eq_bind (sc : Scope) (node : Node) (rest : List Node) :
    sc.evalJoined (node :: rest) = (sc.evalTop node >>= fun v => ofFault v.toText >>= fun part =>
      (part ++ ·) <$> sc.evalJoined rest) := by
  simp only [evalJoined, map_eq_pure_bind]

/-- Expressions that are joined to a text stand before what the further ones say. -/
lemma run_evalJoined_append {before : List Node} {text : String}
    (hbefore : Yields (sc.evalJoined before) h text h₁) (rest : List Node) :
    (sc.evalJoined (before ++ rest)).run ⟨h, frames⟩ =
      ((text ++ ·) <$> sc.evalJoined rest).run ⟨h₁, frames⟩ := by
  have happend : sc.evalJoined (before ++ rest) =
      sc.evalJoined before >>= fun s => (s ++ ·) <$> sc.evalJoined rest := by
    clear hbefore
    induction before with
    | nil => simp [evalJoined]
    | cons node before ih =>
        simp only [List.cons_append, evalJoined_eq_bind, ih, map_bind, bind_assoc,
          Functor.map_map, bind_map_left, String.append_assoc]
  rw [happend, run_bind_ok (hbefore _)]

lemma yields_evalJoined_snoc {before : List Node} {node : Node} {text part : String} {v : Value}
    (hbefore : Yields (sc.evalJoined before) h text h₁) (hnode : Yields (sc.evalTop node) h₁ v h₂)
    (hpart : v.toText = .ok part) :
    Yields (sc.evalJoined (before ++ [node])) h (text ++ part) h₂ := by
  intro frames
  rw [run_evalJoined_append hbefore, run_map, evalJoined_eq_bind, run_bind_ok (hnode _), hpart,
    ofFault_ok, pure_bind]
  simp [evalJoined, Except.map]

lemma yields_of_evalJoined {nodes : List Node} {text : String}
    (hrun : (sc.evalJoined nodes).run ⟨h, frames⟩ = some (.ok text, t)) :
    Yields (sc.evalJoined nodes) h text t.host := by
  induction nodes generalizing h frames text with
  | nil =>
      rw [evalJoined] at hrun
      cases hrun
      exact yields_pure _ _
  | cons node rest ih =>
      rw [evalJoined_eq_bind] at hrun
      obtain ⟨v, u, hnode, hmore⟩ := run_bind_eq_ok.mp hrun
      obtain ⟨part, u', hpart, hrest⟩ := run_bind_eq_ok.mp hmore
      rw [run_map] at hrest
      obtain ⟨⟨e | more, u''⟩, hrest', heq⟩ := Option.map_eq_some_iff.mp hrest
      · cases heq
      · cases heq
        cases htext : v.toText with
        | error f => simp [htext, Except.mapError] at hpart
        | ok part' =>
            obtain ⟨rfl, rfl⟩ : part' = part ∧ u = u' := by
              simpa [htext, Except.mapError] using hpart
            have hv : Yields (sc.evalTop node) h v u.host := evalTop_ends hnode
            rw [evalJoined_eq_bind]
            exact hv.bind (by rw [htext, ofFault_ok, pure_bind]; exact (ih hrest').map _)

/-- Where joining expressions fails, one of them breaks down, or its value has no text. -/
lemma evalBreaks_of_evalJoined {before nodes : List Node} {text : String} {e : Failure}
    (hbefore : Yields (sc.evalJoined before) h text h₁) (hlength : (before ++ nodes).length ≠ 1)
    (hrun : (sc.evalJoined nodes).run ⟨h₁, frames⟩ = some (.error e, t)) :
    ∃ path b, sc.EvalBreaks (before ++ nodes) h path b t.host := by
  induction nodes generalizing before text h₁ frames with
  | nil => simp [evalJoined] at hrun
  | cons node rest ih =>
      rw [evalJoined_eq_bind] at hrun
      obtain hnode | ⟨v, u, hnode, hmore⟩ := run_bind_eq_error.mp hrun
      · obtain ⟨hnumber, path, b, hbreak⟩ := evalTop_ends hnode
        exact ⟨path, b, .node hbefore hnumber hbreak⟩
      · have hv : Yields (sc.evalTop node) h₁ v u.host := evalTop_ends hnode
        cases htext : v.toText with
        | error f =>
            rw [htext, ofFault_error, ofExcept_error_bind] at hmore
            cases hmore
            exact ⟨[], _, .joining hbefore hv htext (by
              rintro hnil
              obtain ⟨rfl, rfl⟩ := List.append_eq_nil_iff.mp hnil
              simp at hlength)⟩
        | ok part =>
            rw [htext, ofFault_ok, pure_bind, run_map_eq_error] at hmore
            have hsnoc := yields_evalJoined_snoc hbefore hv htext
            simpa using ih hsnoc (by simpa using hlength) hmore

lemma eval_singleton (sc : Scope) (node : Node) :
    sc.eval [node] = (fun v => match v with
      | .null => .text ""
      | v => v) <$> sc.evalTop node := by
  rw [eval]
  exact (map_eq_pure_bind _ _).symm

lemma eval_of_length_ne_one {nodes : List Node} (h : nodes.length ≠ 1) :
    sc.eval nodes = .text <$> sc.evalJoined nodes := by
  rcases nodes with - | ⟨node, - | ⟨next, rest⟩⟩
  · rfl
  · simp at h
  · rfl

/-- The failure of a breakdown in a list of expressions, and the calls under way afterwards. -/
lemma EvalBreaks.run {nodes : List Node} {path : List Frame} {b : Breakdown}
    (hbreak : sc.EvalBreaks nodes h path b h₁) (frames : List Frame) :
    (sc.eval nodes).run ⟨h, frames⟩ =
      some (.error (b.failure (path.reverse ++ frames)), ⟨h₁, frames⟩) := by
  cases hbreak with
  | @node before after node text path b _ h₁ h₂ hbefore hnumber hnode =>
      have htop := hnode.run frames
      rw [← evalTop_of_ne_number hnumber] at htop
      by_cases hlength : (before ++ node :: after).length = 1
      · obtain ⟨rfl, rfl⟩ : before = [] ∧ after = [] := by
          constructor <;> rw [← List.length_eq_zero_iff] <;> grind
        obtain ⟨rfl, rfl⟩ : text = "" ∧ h₁ = h := by
          have := hbefore []
          simp [evalJoined] at this
          grind
        rw [List.nil_append, eval_singleton, run_map_eq_error, htop]
      · rw [eval_of_length_ne_one hlength, run_map_eq_error, run_evalJoined_append hbefore,
          run_map_eq_error, evalJoined_eq_bind, run_bind_error htop]
  | @joining before after node text v f _ h₁ h₂ hbefore hnode htext hne =>
      have hlength : (before ++ node :: after).length ≠ 1 := by
        have hpos := List.length_pos_of_ne_nil hne
        simp only [List.length_append, List.length_cons] at hpos ⊢
        omega
      rw [eval_of_length_ne_one hlength, run_map_eq_error, run_evalJoined_append hbefore,
        run_map_eq_error, evalJoined_eq_bind, run_bind_ok (hnode _), htext]
      rfl

lemma EvalBreaks.of_singleton {node : Node} {path : List Frame} {b : Breakdown}
    (hnumber : ∀ s, node ≠ .number s) (hbreak : sc.Breaks node h path b h₁) :
    sc.EvalBreaks [node] h path b h₁ := by
  have hnone : Yields (sc.evalJoined []) h "" h := yields_pure "" h
  exact .node hnone hnumber hbreak

/-- An evaluation that fails has broken down somewhere. -/
lemma evalBreaks_of_eval {nodes : List Node} {e : Failure}
    (hrun : (sc.eval nodes).run ⟨h, frames⟩ = some (.error e, t)) :
    ∃ path b, sc.EvalBreaks nodes h path b t.host := by
  by_cases hlength : nodes.length = 1
  · obtain ⟨node, rfl⟩ := List.length_eq_one_iff.mp hlength
    rw [eval_singleton, run_map_eq_error] at hrun
    obtain ⟨hnumber, path, b, hbreak⟩ := evalTop_ends hrun
    exact ⟨path, b, EvalBreaks.of_singleton hnumber hbreak⟩
  · rw [eval_of_length_ne_one hlength, run_map_eq_error] at hrun
    have hnone : Yields (sc.evalJoined []) h "" h := yields_pure "" h
    exact evalBreaks_of_evalJoined hnone hlength hrun

/-- The calls under way are the same after an evaluation as before it, however it ends. -/
lemma frames_of_eval {nodes : List Node} {s : Session} {r : Except Failure Value}
    (hrun : (sc.eval nodes).run s = some (r, t)) : t.frames = s.frames := by
  cases r with
  | error e =>
      obtain ⟨path, b, hbreak⟩ := evalBreaks_of_eval hrun
      have heq := Option.some.inj (hrun.symm.trans (hbreak.run s.frames))
      exact congrArg (·.2.frames) heq
  | ok v =>
      by_cases hlength : nodes.length = 1
      · obtain ⟨node, rfl⟩ := List.length_eq_one_iff.mp hlength
        rw [eval_singleton, run_map] at hrun
        obtain ⟨⟨e | w, u⟩, htop, heq⟩ := Option.map_eq_some_iff.mp hrun
        · cases heq
        · cases heq
          exact Yields.frames_eq (evalTop_ends htop) htop
      · rw [eval_of_length_ne_one hlength, run_map] at hrun
        obtain ⟨⟨e | text, u⟩, hjoined, heq⟩ := Option.map_eq_some_iff.mp hrun
        · cases heq
        · cases heq
          exact Yields.frames_eq (yields_of_evalJoined hjoined) hjoined

/-- A text fails because it is not parsed, or where its expressions break down. -/
lemma failure_of_run {text : String} {e : Failure} {s : Session}
    (hrun : (sc.run text).run s = some (.error e, t)) :
    sc.expressions text = .error e ∨ ∃ nodes path b h', Parses sc.functions.isName text nodes ∧
      sc.EvalBreaks nodes s.host path b h' ∧ e = b.failure (path.reverse ++ s.frames) := by
  cases hes : sc.expressions text with
  | error e' =>
      rw [Scope.run, hes, Eval.ofExcept_error_bind] at hrun
      cases hrun
      exact .inl rfl
  | ok nodes =>
      rw [Scope.run, hes, Eval.ofExcept_ok, pure_bind] at hrun
      obtain ⟨path, b, hbreak⟩ := evalBreaks_of_eval hrun
      have heq := Option.some.inj (hrun.symm.trans (hbreak.run s.frames))
      exact .inr ⟨nodes, path, b, _, expressions_eq_ok_iff.mp hes, hbreak,
        Except.error.inj (congrArg Prod.fst heq)⟩

end Scope

/-! ### Traces -/

/-- The text of a trace with these lines for its calls. -/
def traceLines (calls : List String) : String :=
  joinWith "\n" ("islet call chain:" :: calls.map ("  at " ++ ·))

/-- The frame is shown as this call. -/
def Frame.ShownAs (frame : Frame) (call : String) : Prop :=
  sourceCall defaultWidth frame.source frame.arguments = .ok call

lemma exists_shownAs {frame : Frame} (h : ∀ v ∈ frame.arguments, v.Printable) :
    ∃ call, frame.ShownAs call := by
  obtain ⟨parts, hparts⟩ := Value.exists_sourceItems defaultWidth frame.arguments h
  exact ⟨_, by rw [Frame.ShownAs, sourceCall, hparts]; rfl⟩

lemma exists_forall₂_shownAs {path : List Frame}
    (h : ∀ frame ∈ path, ∀ v ∈ frame.arguments, v.Printable) :
    ∃ calls, List.Forall₂ Frame.ShownAs path calls := by
  induction path with
  | nil => exact ⟨[], .nil⟩
  | cons frame path ih =>
      obtain ⟨call, hcall⟩ := exists_shownAs (h frame (by simp))
      obtain ⟨calls, hcalls⟩ := ih fun f hf => h f (by simp [hf])
      exact ⟨call :: calls, .cons hcall hcalls⟩

/-- The trace of calls with printable arguments has a line for each of them, the outermost first. -/
lemma traceText_eq {path : List Frame} {calls : List String}
    (h : List.Forall₂ Frame.ShownAs path calls) :
    traceText path.reverse = .ok (traceLines calls) := by
  have hmap : path.mapM (fun f => sourceCall defaultWidth f.source f.arguments) = .ok calls := by
    induction h with
    | nil => rfl
    | cons hcall _ ih =>
        rw [List.mapM_cons, show sourceCall _ _ _ = _ from hcall, ih]
        rfl
  rw [traceText, List.reverse_reverse, hmap]
  rfl

namespace Scope

/-- **Evaluations and the calls under way.**  However an evaluation ends, the calls under way are
those from before it.  Where a function raises an error that has a wording, the evaluation ends with
one error that names this function, its arguments and its own failure, and that has a line in its
trace for each call that leads down to it, the outermost first, with the arguments of the call by
then.  An error that has no wording cannot be named: there the evaluation ends with the fault of
asking for the wording, and only there.  What breaks down for another reason is the failure itself.
There is no other way to fail. -/
theorem eval_traced (sc : Scope) (nodes : List Node) :
    (∀ s r t, (sc.eval nodes).run s = some (r, t) → t.frames = s.frames) ∧
    (∀ h path function args cause h',
      sc.EvalBreaks nodes h path (.raised function args cause) h' →
      (∀ frame ∈ path, ∀ v ∈ frame.arguments, v.Printable) →
      (cause.wordingFault? = none → ∃ calls, List.Forall₂ Frame.ShownAs path calls ∧
        (sc.eval nodes).run ⟨h, []⟩ =
          some (.error (.call function args cause (traceLines calls) none), ⟨h', []⟩)) ∧
      (∀ f, cause.wordingFault? = some f →
        (sc.eval nodes).run ⟨h, []⟩ = some (.error (.fault f), ⟨h', []⟩))) ∧
    (∀ h path failure h' frames, sc.EvalBreaks nodes h path (.unwrapped failure) h' →
      (sc.eval nodes).run ⟨h, frames⟩ = some (.error failure, ⟨h', frames⟩)) ∧
    (∀ h frames e t, (sc.eval nodes).run ⟨h, frames⟩ = some (.error e, t) →
      ∃ path b, sc.EvalBreaks nodes h path b t.host) := by
  refine ⟨fun s r t hrun => frames_of_eval hrun, ?raised, ?unwrapped,
    fun h frames e t hrun => evalBreaks_of_eval hrun⟩
  case raised =>
    intro h path function args cause h' hbreak hprintable
    obtain ⟨calls, hcalls⟩ := exists_forall₂_shownAs hprintable
    have hrun : (sc.eval nodes).run ⟨h, []⟩ =
        some (.error (callFailure function args path.reverse cause), ⟨h', []⟩) := by
      rw [hbreak.run, List.append_nil, Breakdown.failure]
    refine ⟨fun hworded => ⟨calls, hcalls, ?_⟩, fun f hwordless => ?_⟩
    · rw [hrun, callFailure, traceText_eq hcalls, hworded]
    · rw [hrun, callFailure, traceText_eq hcalls, hwordless]
  case unwrapped =>
    intro h path failure h' frames hbreak
    rw [hbreak.run, Breakdown.failure]

/-- A function that gives back its first argument and one that always fails. -/
def keepAndRefuse : Functions :=
  ⟨[⟨"keep", .function fun args _ => pure (args.headD .null), false⟩,
    ⟨"refuse", .function fun _ _ => throw (.fault (Fault.value "refused")), false⟩]⟩

/-- A function fails in the second argument of a call, after a first one that is a call as well, and
a name without value stands in the argument of a call. -/
theorem eval_traced_refused :
    let sc : Scope := ⟨keepAndRefuse, [], fun _ _ _ => none⟩
    let refused : List Node := [.text "to ", .call "keep" "@Keep"
      [.call "keep" "" [.string "'a'"], .call "refuse" "@refuse" [.string "'b'"]], .number "1"]
    let nowhere : List Node := [.call "keep" "" [.ident "nowhere"]]
    let path := [callFrame "keep" "@Keep" [.text "a"], callFrame "refuse" "@refuse" [.text "b"]]
    let outer := [callFrame "refuse" "" []]
    let error := Failure.call "refuse" [.text "b"] (.fault (Fault.value "refused"))
      "islet call chain:\n  at @Keep('a')\n  at @refuse('b')" none
    sc.EvalBreaks refused Host.blank path (.raised "refuse" [.text "b"]
        (.fault (Fault.value "refused"))) Host.blank ∧
      (sc.eval refused).run ⟨Host.blank, []⟩ = some (.error error, ⟨Host.blank, []⟩) ∧
      sc.EvalBreaks nowhere Host.blank [callFrame "keep" "" []]
        (.unwrapped (.undefined "nowhere" none)) Host.blank ∧
      ∃ t, (sc.eval nowhere).run ⟨Host.blank, outer⟩ =
        some (.error (.undefined "nowhere" none), t) ∧ t.frames = outer ∧
          ∃ path b, sc.EvalBreaks nowhere Host.blank path b t.host := by
  intro sc refused nowhere path outer error
  have hkeep : sc.functions.lookup "keep" =
      some ⟨"keep", .function fun args _ => pure (args.headD .null), false⟩ := by rfl
  have hrefuse : sc.functions.lookup "refuse" =
      some ⟨"refuse", .function fun _ _ => throw (.fault (Fault.value "refused")), false⟩ := by rfl
  have hraised : sc.EvalBreaks refused Host.blank path (.raised "refuse" [.text "b"]
      (.fault (Fault.value "refused"))) Host.blank := by
    have harg : Yields (sc.argument false (.call "keep" "" [.string "'a'"])) Host.blank (.text "a")
        Host.blank := fun frames => by cbv
    have hb : Yields (sc.argument false (.string "'b'")) Host.blank (.text "b") Host.blank :=
      fun frames => by cbv
    have hbefore : Yields (sc.evalJoined [.text "to "]) Host.blank "to " Host.blank :=
      fun frames => by cbv
    exact .node hbefore (by simp) (.argument hkeep (.cons harg .nil) (by simp)
      (.raised hrefuse (.cons hb .nil) (by cbv)))
  have hunwrapped : sc.EvalBreaks nowhere Host.blank [callFrame "keep" "" []]
      (.unwrapped (.undefined "nowhere" none)) Host.blank := by
    have hname : sc.Lacks "nowhere" := ⟨rfl, rfl, rfl⟩
    exact .of_singleton (by simp) (.argument hkeep .nil (by simp) (.undefined hname))
  have hprintable : ∀ frame ∈ path, ∀ v ∈ frame.arguments, v.Printable := by
    simp [path, callFrame, Value.Printable, Value.scalars]
  obtain ⟨calls, hcalls, hrun⟩ :=
    ((eval_traced sc refused).2.1 _ _ _ _ _ _ hraised hprintable).1 rfl
  have hshown : calls = ["@Keep('a')", "@refuse('b')"] := by
    simp only [path] at hcalls
    obtain - | ⟨hkeep, - | ⟨hrefuse, ⟨⟩⟩⟩ := hcalls
    have hfirst : (callFrame "keep" "@Keep" [.text "a"]).ShownAs "@Keep('a')" := by rfl
    have hsecond : (callFrame "refuse" "@refuse" [.text "b"]).ShownAs "@refuse('b')" := by rfl
    rw [Except.ok.inj (hkeep.symm.trans hfirst), Except.ok.inj (hrefuse.symm.trans hsecond)]
  subst hshown
  obtain ⟨hframes, -, hunwrap, hbreaks⟩ := eval_traced sc nowhere
  have hfails := hunwrap _ _ _ _ outer hunwrapped
  exact ⟨hraised, hrun, hunwrapped, _, hfails, hframes _ _ _ hfails, hbreaks _ _ _ _ hfails⟩

/-- A function that fails with a key, which the wording of the failure shows. -/
def refuseKey (key : Value) : Functions :=
  ⟨[⟨"refuse", .function fun _ _ => throw (match key.shown with
    | .ok text => .fault ⟨.key, some text⟩
    | .error f => .wordless .key f), false⟩]⟩

/-- A function without arguments fails with an integer of too many digits: the evaluation ends with
the fault of that integer, which is no error of a call. -/
theorem long_key_escapes :
    let sc : Scope := ⟨refuseKey (.int ((10 ^ Decimal.digitLimit : ℕ) : ℤ)), [], fun _ _ _ => none⟩
    let nodes : List Node := [.call "refuse" "@refuse" []]
    let path := [callFrame "refuse" "@refuse" []]
    let f := Decimal.NumeralError.fault .tooLong
    sc.EvalBreaks nodes Host.blank path (.raised "refuse" [] (.wordless .key f)) Host.blank ∧
      (∀ frame ∈ path, ∀ v ∈ frame.arguments, v.Printable) ∧
      (sc.eval nodes).run ⟨Host.blank, []⟩ = some (.error (.fault f), ⟨Host.blank, []⟩) ∧
      ∀ function args cause trace site, Failure.fault f ≠ .call function args cause trace site := by
  intro sc nodes path f
  have hshown : (Value.int ((10 ^ Decimal.digitLimit : ℕ) : ℤ)).shown = .error f := by
    rw [Value.shown]
    exact showInt_of_le (Int.natAbs_natCast _).ge
  have hcall : sc.callResult "refuse" ⟨"refuse", .function fun _ _ => throw (.wordless .key f),
      false⟩ [] Host.blank = some (.error (.wordless .key f), Host.blank) := rfl
  have hentry : sc.functions.lookup "refuse" =
      some ⟨"refuse", .function fun _ _ => throw (.wordless .key f), false⟩ := by
    simp only [sc, refuseKey, hshown]
    rfl
  have hraised : sc.EvalBreaks nodes Host.blank path (.raised "refuse" [] (.wordless .key f))
      Host.blank := .of_singleton (by simp) (.raised hentry .nil hcall)
  have hprintable : ∀ frame ∈ path, ∀ v ∈ frame.arguments, v.Printable := by
    simp [path, callFrame]
  refine ⟨hraised, hprintable, ?_, fun _ _ _ _ _ => nofun⟩
  have hcallError : (callFailure "refuse" [] path (.wordless .key f)) = .fault f := by rfl
  rw [hraised.run, List.append_nil, Breakdown.failure]
  exact congrArg (fun e => some (Except.error e, (⟨Host.blank, []⟩ : Session))) hcallError

end Scope

end Sigil
