/-
# The limit on the size of values

A limit is compared with the size of the compact JSON text of the value before anything else is
done.  So where the value has such a text, a limit either leaves the call as it is or leaves the
value as it is.  But a value may be interpreted that has none: one with a key that JSON has no form
for, or with an integer of too many digits.  There a call with a limit fails.
-/
import Sigil.Proofs.Batches
import Sigil.Proofs.Reentry
import Sigil.Proofs.Scalars

namespace Sigil

/-! ### Values with a JSON text -/

namespace Value

/-- The key of a mapping has a form in JSON: it is a text, a number, a truth value or absent. -/
def IsJsonKey : Value → Prop
  | .text _ | .int _ | .float _ | .bool _ | .null => True
  | _ => False

mutual

/-- The keys of the mappings within a value, at every depth. -/
def keysWithin : Value → List Value
  | list items | tuple items => keysOfItems items
  | mapping entries => keysOfEntries entries
  | _ => []

/-- The keys of the mappings within the items of a sequence. -/
def keysOfItems : List Value → List Value
  | [] => []
  | v :: rest => keysWithin v ++ keysOfItems rest

/-- The keys of entries and of the mappings within their values. -/
def keysOfEntries : List (Value × Value) → List Value
  | [] => []
  | (k, v) :: rest => k :: (keysWithin v ++ keysOfEntries rest)

end

lemma mem_keysOfItems {k : Value} {items : List Value} :
    k ∈ keysOfItems items ↔ ∃ v ∈ items, k ∈ v.keysWithin := by
  induction items with
  | nil => simp [keysOfItems]
  | cons v items ih => simp [keysOfItems, ih]

lemma mem_keysOfEntries {k : Value} {entries : Entries} :
    k ∈ keysOfEntries entries ↔ ∃ e ∈ entries, k = e.1 ∨ k ∈ e.2.keysWithin := by
  induction entries with
  | nil => simp [keysOfEntries]
  | cons e entries ih => simp [keysOfEntries, ih, or_assoc]

/-- The value has a form in JSON: no integer within it has more digits than are written, and the
keys of its mappings are of the kinds that JSON has a form for. -/
def HasJson (v : Value) : Prop := v.Printable ∧ ∀ k ∈ v.keysWithin, k.IsJsonKey

lemma hasJson_list {items : List Value} : (list items).HasJson ↔ ∀ v ∈ items, v.HasJson := by
  simp only [HasJson, printable_list, keysWithin, mem_keysOfItems]
  exact ⟨fun h v hv => ⟨h.1 v hv, fun k hk => h.2 k ⟨v, hv, hk⟩⟩,
    fun h => ⟨fun v hv => (h v hv).1, fun k ⟨v, hv, hk⟩ => (h v hv).2 k hk⟩⟩

lemma hasJson_tuple {items : List Value} : (tuple items).HasJson ↔ ∀ v ∈ items, v.HasJson := by
  rw [← hasJson_list]
  simp only [HasJson, printable_list, printable_tuple, keysWithin]

lemma hasJson_mapping {entries : Entries} : (mapping entries).HasJson ↔
    ∀ e ∈ entries, (e.1.Printable ∧ e.1.IsJsonKey) ∧ e.2.HasJson := by
  simp only [HasJson, printable_mapping, keysWithin, mem_keysOfEntries]
  constructor
  · exact fun h e he => ⟨⟨(h.1 e he).1, h.2 e.1 ⟨e, he, .inl rfl⟩⟩, (h.1 e he).2,
      fun k hk => h.2 k ⟨e, he, .inr hk⟩⟩
  · refine fun h => ⟨fun e he => ⟨(h e he).1.1, (h e he).2.1⟩, ?_⟩
    rintro k ⟨e, he, rfl | hk⟩
    · exact (h e he).1.2
    · exact (h e he).2.2 k hk

end Value

/-- The step succeeds. -/
def Succeeds {ε α : Type} (r : Except ε α) : Prop := ∃ a, r = .ok a

section

variable {ε α β : Type} {x : Except ε α}

@[simp] lemma succeeds_ok (a : α) : Succeeds (.ok a : Except ε α) := ⟨a, rfl⟩

@[simp] lemma not_succeeds_error (e : ε) : ¬ Succeeds (.error e : Except ε α) := nofun

lemma succeeds_map {f : α → β} : Succeeds (x.map f) ↔ Succeeds x := by
  cases x <;> simp [Except.map]

lemma succeeds_bind_pure {f : α → β} : Succeeds (x >>= fun a => pure (f a)) ↔ Succeeds x := by
  cases x <;> simp [bind, Except.bind, pure, Except.pure]

lemma succeeds_bind {f : α → Except ε β} {p : Prop} (hf : ∀ a, Succeeds (f a) ↔ p) :
    Succeeds (x >>= f) ↔ Succeeds x ∧ p := by
  cases x <;> simp [bind, Except.bind, hf]

end

namespace Json

lemma showInt_succeeds {n : ℤ} : Succeeds (showInt n) ↔ n.natAbs < 10 ^ Decimal.digitLimit := by
  rcases lt_or_ge n.natAbs (10 ^ Decimal.digitLimit) with hn | hn
  · exact iff_of_true ⟨_, showInt_of_lt hn⟩ hn
  · exact iff_of_false (showInt_of_le hn ▸ not_succeeds_error _) hn.not_gt

lemma keyText_succeeds {style : Style} {k : Value} :
    Succeeds (keyText style k) ↔ k.Printable ∧ k.IsJsonKey := by
  cases k <;> simp [keyText, Value.IsJsonKey, Value.Printable, Value.scalars, showInt_succeeds]

lemma renderItems_succeeds {style : Style} {depth : ℕ} {items : List Value} :
    Succeeds (renderItems style depth items) ↔
      ∀ v ∈ items, Succeeds (renderAt style (depth + 1) v) := by
  induction items with
  | nil => simp [renderItems]
  | cons v items ih =>
      rw [renderItems, succeeds_bind fun _ => succeeds_bind_pure.trans ih, List.forall_mem_cons]

lemma renderEntries_succeeds {style : Style} {depth : ℕ} {entries : Entries} :
    Succeeds (renderEntries style depth entries) ↔
      ∀ e ∈ entries, Succeeds (keyText style e.1) ∧ Succeeds (renderAt style (depth + 1) e.2) := by
  induction entries with
  | nil => simp [renderEntries]
  | cons e entries ih =>
      rw [renderEntries, succeeds_bind fun _ => succeeds_bind fun _ => succeeds_bind_pure.trans ih,
        List.forall_mem_cons, and_assoc]

/-- A value has a JSON text exactly if it has a form in JSON. -/
lemma renderAt_succeeds (style : Style) : (v : Value) → (depth : ℕ) →
    (Succeeds (renderAt style depth v) ↔ v.HasJson)
  | .list items, depth => by
      rw [renderAt, succeeds_bind_pure, renderItems_succeeds, Value.hasJson_list]
      exact forall₂_congr fun v _ => renderAt_succeeds style v (depth + 1)
  | .tuple items, depth => by
      rw [renderAt, succeeds_bind_pure, renderItems_succeeds, Value.hasJson_tuple]
      exact forall₂_congr fun v _ => renderAt_succeeds style v (depth + 1)
  | .mapping entries, depth => by
      rw [renderAt, succeeds_bind_pure, renderEntries_succeeds, Value.hasJson_mapping]
      exact forall₂_congr fun e _ =>
        and_congr keyText_succeeds (renderAt_succeeds style e.2 (depth + 1))
  | .int n, depth => by
      rw [renderAt, succeeds_map, showInt_succeeds]
      simp [Value.HasJson, Value.Printable, Value.scalars, Value.keysWithin]
  | .null, _ | .bool _, _ | .float _, _ | .text _, _ => by
      simp [renderAt, Value.HasJson, Value.Printable, Value.scalars, Value.keysWithin]
  | .complex _ _, _ | .bytes _, _ | .moment _ _, _ | .day _, _ | .clock _, _ | .object _, _ => by
      simp [renderAt, Value.HasJson, Value.Printable, Value.scalars, Value.keysWithin, succeeds_map,
        Value.plain, Value.shown]
termination_by v => sizeOf v
decreasing_by
  all_goals simp only [Value.list.sizeOf_spec, Value.tuple.sizeOf_spec, Value.mapping.sizeOf_spec]
  · have := List.sizeOf_lt_of_mem ‹_›
    omega
  · have := List.sizeOf_lt_of_mem ‹_›
    omega
  · have hmem := List.sizeOf_lt_of_mem ‹_›
    have hsnd : sizeOf e = 1 + sizeOf e.1 + sizeOf e.2 := rfl
    omega

end Json

lemma compactSize_succeeds (v : Value) : Succeeds v.compactSize ↔ v.HasJson := by
  rw [Value.compactSize, Json.render, succeeds_map, succeeds_map, Json.renderAt_succeeds]

/-! ### Limits -/

/-- The value limits the size of values: it is a number that counts as true. -/
inductive Value.IsLimit : Value → Prop
  | int {n : ℤ} : n ≠ 0 → IsLimit (.int n)
  | bool : IsLimit (.bool true)
  | float {x : Float} : x != 0 → IsLimit (.float x)

namespace Options

/-- The options with this limit. -/
def limitedTo (options : Options) (limit : Value) : Options := { options with maxSize := limit }

/-- The size of a value is compared with every limit. -/
lemma tooLarge_limitedTo {limit : Value} (hlimit : limit.IsLimit) (options : Options) (v : Value) :
    ∃ large : ℕ → Bool, (options.limitedTo limit).tooLarge v = v.compactSize.map large := by
  cases hlimit with
  | @int n hn =>
      refine ⟨fun size => decide (n < size), ?_⟩
      have htruthy : (Value.int n).isTruthy := by simpa [Value.isTruthy] using hn
      rw [tooLarge, limitedTo, if_pos htruthy]
      cases v.compactSize <;> rfl
  | bool =>
      refine ⟨fun size => decide (1 < size), ?_⟩
      change (v.compactSize >>= fun size => above size (.bool true)) = _
      cases v.compactSize <;> rfl
  | @float x hx =>
      refine ⟨fun size => Number.lt (.float x) (.int size), ?_⟩
      have htruthy : (Value.float x).isTruthy := hx
      rw [tooLarge, limitedTo, if_pos htruthy]
      cases v.compactSize <;> rfl

end Options

/-- The request with a limit in its options. -/
def Request.limitedTo (r : Request) (limit : Value) : Request :=
  { r with options := r.options.map (·.limitedTo limit) }

lemma Request.options_limitedTo {r : Request} {options : Options}
    (hoptions : r.options = .ok options) (limit : Value) :
    (r.limitedTo limit).options = .ok (options.limitedTo limit) := by
  rw [Request.limitedTo, hoptions]
  rfl

/-- Without local parameters a limit does not matter for a value that is interpreted. -/
lemma carryOut_proceed_limitedTo {locals : Value} (hlocals : locals.isTruthy = false)
    (functions : Functions) (reenter : Reentry) (v : Value) (options : Options) (limit : Value)
    (globals : Entries) : (Plan.proceed (options.limitedTo limit) globals).carryOut functions
      reenter v locals = (Plan.proceed options globals).carryOut functions reenter v locals := by
  simp only [Plan.carryOut, Run.layer, Run.interpretLocals, hlocals, Bool.false_eq_true, if_false]

section

variable {i : Interpreter} {depth : ℕ} {r : Request} {options : Options} {limit : Value}

/-- A limit that does not exclude the value leaves the call as it is. -/
lemma interpretTo_limitedTo_of_small (hoptions : r.options = .ok options)
    (hoff : options.Unlimited) (hlocals : r.locals.isTruthy = false)
    (hsize : (options.limitedTo limit).tooLarge r.value = .ok false) (h : Host) :
    i.interpretTo depth (r.limitedTo limit) h = i.interpretTo depth r h := by
  have hlimited := r.options_limitedTo hoptions limit
  have hplan : (r.limitedTo limit).plan i.store =
      ((i.store.enter options r.newGlobals).1.map (.proceed (options.limitedTo limit)),
        (i.store.enter options r.newGlobals).2) :=
    Request.plan_of_tooLarge hlimited hsize i.store
  simp only [Interpreter.interpretTo, hplan, Request.plan_of_tooLarge hoptions (hoff.tooLarge _)]
  congr 1
  cases (i.store.enter options r.newGlobals).1 with
  | error e => rfl
  | ok globals =>
      simp only [Except.map, interpretPlanned]
      rw [← carryOut_proceed_limitedTo hlocals i.functions _ r.value options limit globals]
      rfl

end

/-- **The limit on the size of values.**  Let a call have no local parameters and no limit.  If its
value has a form in JSON, then with a limit the call ends as it does without, or it gives the value
as it stands, with the store and the surroundings as they were.  If its value has none, then with a
limit the call fails without any effect, however it ends without.  The texts of a value hold no
surrogates here, which would have no size either. -/
theorem limited_call {r : Request} {options : Options} {limit : Value}
    (hoptions : r.options = .ok options) (hoff : options.Unlimited)
    (hlocals : r.locals.isTruthy = false) (hlimit : limit.IsLimit) (i : Interpreter) (depth : ℕ)
    (h : Host) :
    (r.value.HasJson →
      i.interpretTo depth (r.limitedTo limit) h = i.interpretTo depth r h ∨
        ∃ h', i.interpretTo depth (r.limitedTo limit) h = (some (.ok r.value, h'), i.store) ∧
          h'.surroundings = h.surroundings) ∧
    (¬ r.value.HasJson → ∃ f,
      i.interpretTo depth (r.limitedTo limit) h = (some (.error (.fault f), h), i.store)) := by
  have hlimited := r.options_limitedTo hoptions limit
  obtain ⟨large, hlarge⟩ := Options.tooLarge_limitedTo hlimit options r.value
  rw [← compactSize_succeeds]
  constructor
  · -- the size is known, and what the limit makes of it decides between the two ends
    rintro ⟨size, hsize⟩
    rw [hsize] at hlarge
    cases hguard : large size with
    | false =>
        exact .inl (interpretTo_limitedTo_of_small hoptions hoff hlocals (hguard ▸ hlarge) h)
    | true => exact .inr (Interpreter.interpretTo_of_large hlimited (hguard ▸ hlarge) h)
  · intro hnone
    cases hsize : r.value.compactSize with
    | ok size => exact absurd ⟨size, hsize⟩ hnone
    | error f =>
        rw [hsize] at hlarge
        exact ⟨f, Interpreter.interpretTo_of_error hlimited hlarge h⟩

/-- The value with a key that JSON has no form for. -/
def pairKeyed : Value := .mapping [(.tuple [.int 1, .int 2], .text "x")]

/-- A text that a limit may exclude is interpreted without it, and the pair for a key is refused
under the smallest limit. -/
theorem limited_call_list :
    let i : Interpreter := ⟨listScope.functions, ⟨[(.text "g", .int 7)]⟩⟩
    let r : Request := { value := .text "@list(g)" }
    (i.interpretTo 1 r Host.blank).1 = some (.ok (.list [.int 7]), Host.blank) ∧
      (i.interpretTo 1 (r.limitedTo (.int 9)) Host.blank = i.interpretTo 1 r Host.blank ∨
        ∃ h', i.interpretTo 1 (r.limitedTo (.int 9)) Host.blank =
          (some (.ok r.value, h'), i.store) ∧ h'.surroundings = Host.blank.surroundings) ∧
      ∃ f, i.interpretTo 1 (Request.limitedTo { value := pairKeyed } (.bool true)) Host.blank =
        (some (.error (.fault f), Host.blank), i.store) := by
  intro i r
  let pair : Request := { value := pairKeyed }
  have hjson : r.value.HasJson := by
    simp [r, Value.HasJson, Value.Printable, Value.scalars, Value.keysWithin]
  have hnone : ¬ pair.value.HasJson := by
    simp [pair, pairKeyed, Value.hasJson_mapping, Value.IsJsonKey]
  have hlimit : (Value.int 9).IsLimit := .int (by decide)
  have hparse : Parses i.functions.isName "@list(g)" [.call "list" "@list" [.ident "g"]] :=
    except_map_eq_ok.mp (by cbv)
  have hlayer : ((Run.ofLocals i.functions (reentry i.functions i.store 1) r.locals).layer .standard
      r.locals i.store.entries).run ⟨Host.blank, []⟩ =
        some (.ok [(.text "g", .int 7)], ⟨Host.blank, []⟩) := by cbv
  have hcall := limited_call rfl Options.unlimited_standard (r := r) rfl hlimit i 1 Host.blank
  have hpair := limited_call rfl Options.unlimited_standard (r := pair) rfl .bool i 1 Host.blank
  refine ⟨interpretTo_of_walk rfl hlayer (u := ⟨Host.blank, []⟩) ?_, hcall.1 hjson, hpair.2 hnone⟩
  rw [Run.walk, interpretString_of_parses _ (by decide) hparse]
  rfl

/-- A mapping with a pair for a key is interpreted without a limit, and refused with one that it
would not exceed. -/
theorem limit_refuses_key :
    let i : Interpreter := ⟨.empty, .empty⟩
    let r : Request := { value := pairKeyed }
    i.interpret r Host.blank = (some (.ok pairKeyed, Host.blank), i.store) ∧
      i.interpret (r.limitedTo (.int 100)) Host.blank = (some (.error (.fault (Fault.type
        "keys must be str, int, float, bool or None, not tuple")), Host.blank), i.store) := by
  intro i r
  refine ⟨?_, ?_⟩ <;> cbv

end Sigil
