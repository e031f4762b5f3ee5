import Mathlib.Algebra.Order.Field.Basic
import Mathlib.Algebra.Order.Field.Rat
import FaustRnbo.Midi

/-!
# The Parameter Loop of `add_rnbo_object`

For each parameter, in order, the loop of `add_rnbo_object` adds a `set <label>` relay box to
the subpatcher, an `attrui` control (and a `toggle` for buttons and checkboxes) to the top
level wired into the `rnbo~` box, a `param` box wired into the relay, the relay wired into the
`codebox~`, and with MIDI on the parameter's MIDI chain. It also analyses the shortnames for
the polyphony roles, keeping the last relay seen for each role.

`addParam` is the loop body as the script runs it, box by box; `addParams` is the loop. The
declarative side says what one iteration adds: `paramSubBoxes` and `paramSubLines` in the
subpatcher, `paramTopBoxes` and `paramTopLines` on the top level. `addParam_eq` is the step
lemma, and `addParams_ok` the run lemma: the loop appends the blocks of the parameters in
order, or raises at the first slider or entry whose steps value raises.

The steps value `(max - min) / step` is computed with Python's arithmetic on the numbers as
`json.load` returns them. Two ints subtract exactly and divide into a correctly rounded float,
raising `ZeroDivisionError` on a zero divisor and `OverflowError` beyond the largest double; any
other operation first makes its int operands floats, which raises `OverflowError` for an int
beyond the float range. `StepsDefined` states when none of this raises, with the float range
written out, and `stepsValue_ok_iff` proves the arithmetic meets it.

## Main results

* `addParam_eq`: one iteration appends its blocks, or raises what its check raises.
* `stepsValue_ok_iff`: the steps value is defined exactly when the step is not zero and no
  operand, nor a quotient of two ints, is beyond the float range.
* `addParams_ok_iff`: the loop succeeds exactly when every parameter is a button or checkbox or
  has a defined steps value; `addParams_error`: it raises nothing but `ZeroDivisionError` and
  `OverflowError`.
* `addParams_ok`: what a successful loop has built: the blocks in order, each one's lines,
  and the polyphony roles of the last parameter of each role.
-/

namespace FaustRnbo

/-! ### The loop as the script runs it -/

/-- What the loop reads besides the parameter: the flags, the voice count, and the ids of the
`rnbo~` box and of the `codebox~` in its subpatcher. -/
structure ParamContext where
  midi : Bool
  nvoices : Int
  test : Bool
  rnbo : Nat
  codebox : Nat

/-- The polyphony accumulators: the relays of the pitch, gain and gate parameters, and whether
pitch is a frequency and gain a gain (rather than a key and a velocity). -/
structure Voicing where
  pitch : Option Nat
  gain : Option Nat
  gate : Option Nat
  isFreq : Bool
  isGain : Bool
deriving DecidableEq, Repr

/-- The state the loop threads: the top-level patcher, the subpatcher and the accumulators. -/
structure ParamState where
  patcher : Patcher Box
  subPatch : Patcher SubBox
  voicing : Voicing

/-- `s.endswith(suffix)`. -/
def pyEndsWith (s suffix : String) : Bool :=
  suffix.toList.isSuffixOf s.toList

/-- The polyphony analysis of one parameter whose relay is `setParam`: the first of the
suffixes `freq`, `key`, `gain`, `velocity`, `gate` its shortname ends with gives its role. -/
def Voicing.analyse (v : Voicing) (shortname : String) (setParam : Nat) : Voicing :=
  if pyEndsWith shortname "freq" then { v with pitch := some setParam, isFreq := true }
  else if pyEndsWith shortname "key" then { v with pitch := some setParam, isFreq := false }
  else if pyEndsWith shortname "gain" then { v with gain := some setParam, isGain := true }
  else if pyEndsWith shortname "velocity" then { v with gain := some setParam, isGain := false }
  else if pyEndsWith shortname "gate" then { v with gate := some setParam }
  else v

/-- The least magnitude that rounds to infinity as a double, `(2 ^ 54 - 1) * 2 ^ 970`, which is
`2 ^ 1024 - 2 ^ 970`: half a unit in the last place above the largest double
`(2 ^ 53 - 1) * 2 ^ 971`, a tie that rounds to even. -/
def pyFloatLimit : Nat := (2 ^ 54 - 1) <<< 970

/-- An int operand of a float operation made a float: `OverflowError` when it rounds beyond the
largest double. A float operand is one already. -/
def pyToFloat : JsonNum → Except PyError ℚ
  | .int n => if pyFloatLimit ≤ n.natAbs then .error .overflow else .ok n
  | .float x => .ok x

/-- Python's `a - b` on JSON numbers: exact on two ints; otherwise both operands are made
floats, the left one first. The value of a float result is kept exact: the script drops the
quotient it feeds, so only the exceptions on the way are observed. -/
def pySub : JsonNum → JsonNum → Except PyError JsonNum
  | .int a, .int b => .ok (.int (a - b))
  | a, b => do
    let x ← pyToFloat a
    let y ← pyToFloat b
    pure (.float (x - y))

/-- Python's `a / b` on JSON numbers. Two ints: `ZeroDivisionError` on a zero divisor, and
`OverflowError` when the correctly rounded quotient is beyond the largest double, that is when
`|a / b|` reaches the limit. Otherwise both operands are made floats, the left one first, and a
zero divisor raises `ZeroDivisionError`. -/
def pyDiv : JsonNum → JsonNum → Except PyError ℚ
  | .int a, .int b =>
    if b = 0 then .error .zeroDivision
    else if pyFloatLimit * b.natAbs ≤ a.natAbs then .error .overflow
    else .ok (a / b)
  | a, b => do
    let x ← pyToFloat a
    let y ← pyToFloat b
    if y = 0 then .error .zeroDivision else pure (x / y)

/-- `(max_value - min_value) / item["step"]`: the steps value the loop computes for a slider or
entry, and never uses. -/
def stepsValue (item : ItemInfo) : Except PyError ℚ := do
  pyDiv (← pySub item.max item.min) item.step

/-- `item_type in ["button", "checkbox"]`. -/
def isToggle (itemType : String) : Bool :=
  itemType ∈ ["button", "checkbox"]

theorem isToggle_iff (itemType : String) :
    isToggle itemType = true ↔ itemType = "button" ∨ itemType = "checkbox" := by
  simp [isToggle]

/-- The relay box `set <label>`. -/
def relayBox (label : String) : SubBox :=
  .textbox [.sym "set", .sym label]

/-- The box `param <label> <init> @min <min> @max <max>`. -/
def paramBox (label : String) (init mn mx : ℚ) : SubBox :=
  .textbox [.sym "param", .sym label, .num init, .sym "@min", .num mn, .sym "@max", .num mx]

/-- The `attrui` control bound to a parameter, with its range and initial value. -/
def attruiBox (label : String) (mn mx init : ℚ) : Box :=
  .attrui ⟨label, mn, mx, 1, [.sym label, .num init], 1⟩

/-- The body of the parameter loop of `add_rnbo_object` for one item. -/
def addParam (c : ParamContext) (s : ParamState) (item : ItemInfo) :
    Except PyError ParamState := do
  let label := buildLabel item.type item.shortname c.test
  let (subPatch, setParam) := s.subPatch.addBox (relayBox label)
  let (patcher, subPatch, param) ←
    if isToggle item.type then
      let (patcher, toggle) := s.patcher.addBox (.plain [.sym "toggle"])
      let (patcher, paramWrap) := patcher.addBox (attruiBox label 0 1 0)
      let patcher := patcher.addLine toggle paramWrap 0 0
      let patcher := patcher.addLine paramWrap c.rnbo 0 0
      let (subPatch, param) := subPatch.addBox (paramBox label 0 0 1)
      pure (patcher, subPatch, param)
    else do
      let _stepsValue ← stepsValue item
      let (patcher, paramWrap) := s.patcher.addBox (attruiBox label item.min item.max item.init)
      let patcher := patcher.addLine paramWrap c.rnbo 0 0
      let (subPatch, param) := subPatch.addBox (paramBox label item.init item.min item.max)
      pure (patcher, subPatch, param)
  let subPatch := subPatch.addLine param setParam 0 0
  let subPatch := subPatch.addLine setParam c.codebox 0 0
  let voicing :=
    if c.midi && decide (0 < c.nvoices) then s.voicing.analyse item.shortname setParam
    else s.voicing
  let subPatch := if c.midi then (addMidiControl item subPatch setParam c.codebox).1 else subPatch
  pure ⟨patcher, subPatch, voicing⟩

/-- The parameter loop: `for item in items_info_list`. -/
def addParams (c : ParamContext) : List ItemInfo → ParamState → Except PyError ParamState
  | [], s => .ok s
  | item :: items, s => do
    let s ← addParam c s item
    addParams c items s

/-! ### What one iteration adds -/

/-- The label of a parameter: `build_label(type, shortname, test)`. -/
def itemLabel (test : Bool) (item : ItemInfo) : String :=
  buildLabel item.type item.shortname test

/-- The initial value, minimum and maximum a parameter is declared with: `0, 0, 1` for a
button or checkbox, its own otherwise. -/
def declaredRange (item : ItemInfo) : ℚ × ℚ × ℚ :=
  if item.type = "button" ∨ item.type = "checkbox" then (0, 0, 1)
  else (item.init, item.min, item.max)

/-- The MIDI chain of a parameter: empty unless its first token is a supported class. -/
def itemMidiChain (item : ItemInfo) : List SubBox :=
  match item.midi with
  | [] => []
  | midiType :: midiArgs => midiChainBoxes midiType midiArgs item.min item.max

/-- The boxes one parameter adds to the subpatcher: its relay `set L`, its box
`param L init @min min @max max`, and with MIDI on its MIDI chain. -/
def paramSubBoxes (midi test : Bool) (item : ItemInfo) : List SubBox :=
  [.textbox [.sym "set", .sym (itemLabel test item)],
    .textbox [.sym "param", .sym (itemLabel test item), .num (declaredRange item).1,
      .sym "@min", .num (declaredRange item).2.1, .sym "@max", .num (declaredRange item).2.2]] ++
    if midi then itemMidiChain item else []

/-- The lines one parameter adds to the subpatcher when its relay lands at `n`: `param` into
the relay, the relay into the `codebox~`, and the chain's four lines when it has one. -/
def paramSubLines (midi : Bool) (item : ItemInfo) (codebox n : Nat) : List Line :=
  [⟨n + 1, 0, n, 0⟩, ⟨n, 0, codebox, 0⟩] ++
    if midi && midiSupported item.midi then midiChainLines (n + 2) n codebox else []

/-- **The control of a parameter**: the `attrui` bound to its label, with its declared range,
enabled as a parameter with its declared initial value. -/
def itemControl (test : Bool) (item : ItemInfo) : Box :=
  .attrui ⟨itemLabel test item, (declaredRange item).2.1, (declaredRange item).2.2, 1,
    [.sym (itemLabel test item), .num (declaredRange item).1], 1⟩

/-- The boxes one parameter adds to the top level: a toggle for a button or checkbox, then its
control. -/
def paramTopBoxes (test : Bool) (item : ItemInfo) : List Box :=
  (if item.type = "button" ∨ item.type = "checkbox" then [.textbox [.sym "toggle"] none none]
    else []) ++ [itemControl test item]

/-- The lines one parameter adds to the top level when its first box lands at `n`: the toggle
into the `attrui`, and the `attrui` into the `rnbo~` box. -/
def paramTopLines (item : ItemInfo) (rnbo n : Nat) : List Line :=
  if item.type = "button" ∨ item.type = "checkbox" then [⟨n, 0, n + 1, 0⟩, ⟨n + 1, 0, rnbo, 0⟩]
  else [⟨n, 0, rnbo, 0⟩]

/-- The state after one iteration that does not raise. -/
def ParamState.extend (c : ParamContext) (s : ParamState) (item : ItemInfo) : ParamState :=
  ⟨⟨s.patcher.boxes ++ paramTopBoxes c.test item,
      s.patcher.lines ++ paramTopLines item c.rnbo s.patcher.boxes.length⟩,
    ⟨s.subPatch.boxes ++ paramSubBoxes c.midi c.test item,
      s.subPatch.lines ++ paramSubLines c.midi item c.codebox s.subPatch.boxes.length⟩,
    if c.midi && decide (0 < c.nvoices) then
      s.voicing.analyse item.shortname s.subPatch.boxes.length
    else s.voicing⟩

theorem addMidiControl_fst (item : ItemInfo) (subPatch : Patcher SubBox) (setParam codebox : Nat) :
    (addMidiControl item subPatch setParam codebox).1 =
      ⟨subPatch.boxes ++ itemMidiChain item, subPatch.lines ++
        if midiSupported item.midi then midiChainLines subPatch.boxes.length setParam codebox
        else []⟩ := by
  cases hs : midiSupported item.midi
  · rw [addMidiControl_of_unsupported hs]
    cases h : item.midi with
    | nil => simp [itemMidiChain, h]
    | cons t args =>
      rw [h, midiSupported] at hs
      cases hm : midiMapping t
      · simp [itemMidiChain, midiChainBoxes, h, hm]
      · simp [hm] at hs
  · cases h : item.midi with
    | nil => simp [midiSupported, h] at hs
    | cons t args =>
      rw [h, midiSupported] at hs
      simp [addMidiControl_of_supported h hs, itemMidiChain, h]

/-- What one iteration can raise, which depends on the parameter alone: nothing for a button or
checkbox, and what its steps value raises otherwise. -/
def stepCheck (item : ItemInfo) : Except PyError Unit :=
  if isToggle item.type then pure () else (stepsValue item).map fun _ => ()

/-- **The step lemma.** One iteration raises what `stepCheck` raises, and otherwise appends the
parameter's blocks to both patchers and analyses its shortname for polyphony with the id its
relay gets. -/
theorem addParam_eq (c : ParamContext) (s : ParamState) (item : ItemInfo) :
    addParam c s item = (stepCheck item).map fun _ => s.extend c item := by
  unfold addParam stepCheck
  simp only [ParamState.extend, paramTopBoxes, itemControl, paramTopLines, paramSubBoxes,
    paramSubLines, declaredRange, itemLabel, ← isToggle_iff, attruiBox, relayBox, paramBox,
    Box.plain]
  cases ht : isToggle item.type
  · cases hv : stepsValue item
    · simp [ht, hv, bind, Except.bind, Except.map]
    · cases hm : c.midi <;>
      simp [ht, hv, hm, bind, pure, Except.pure, Except.bind, Except.map, addMidiControl_fst,
        Patcher.addBox, Patcher.addLine]
  · cases hm : c.midi <;> simp [ht, hm, addMidiControl_fst, Patcher.addBox, Patcher.addLine] <;>
    rfl

/-! ### The whole loop -/

/-- The lines the loop adds to the subpatcher for `items` when the first relay lands at `n`. -/
def paramsSubLines (midi test : Bool) (codebox : Nat) : List ItemInfo → Nat → List Line
  | [], _ => []
  | item :: items, n =>
    paramSubLines midi item codebox n ++
      paramsSubLines midi test codebox items (n + (paramSubBoxes midi test item).length)

/-- The lines the loop adds to the top level for `items` when the first block lands at `n`. -/
def paramsTopLines (test : Bool) (rnbo : Nat) : List ItemInfo → Nat → List Line
  | [], _ => []
  | item :: items, n =>
    paramTopLines item rnbo n ++
      paramsTopLines test rnbo items (n + (paramTopBoxes test item).length)

/-- The polyphony accumulators after the loop over `items`, when the first relay lands at `n`. -/
def voicingFrom (c : ParamContext) : List ItemInfo → Nat → Voicing → Voicing
  | [], _, v => v
  | item :: items, n, v =>
    voicingFrom c items (n + (paramSubBoxes c.midi c.test item).length)
      (if c.midi && decide (0 < c.nvoices) then v.analyse item.shortname n else v)

theorem addParams_cons (c : ParamContext) (item : ItemInfo) (items : List ItemInfo)
    (s : ParamState) :
    addParams c (item :: items) s = (addParam c s item).bind (addParams c items) := rfl

/-! ### When the loop raises

The specification of a defined steps value is stated on its own, with the float range written
out, and `stepsValue_ok_iff` proves the arithmetic of `pySub` and `pyDiv` meets it. -/

/-- A JSON number Python makes a float of without raising: a float, or an int of magnitude
below `2 ^ 1024 - 2 ^ 970`. -/
def JsonNum.FitsFloat : JsonNum → Prop
  | .int n => |(n : ℚ)| < 2 ^ 1024 - 2 ^ 970
  | .float _ => True

/-- The steps value `(max - min) / step` of a parameter is defined: its step is not zero, and
nothing is beyond the float range. Two int bounds subtract exactly, so their difference must
fit, divided by an int step or made a float for a float step; a float bound makes every operand
a float, and then each must fit. -/
def StepsDefined (item : ItemInfo) : Prop :=
  (item.step : ℚ) ≠ 0 ∧
    match item.max, item.min, item.step with
    | .int a, .int b, .int c => |((a - b : ℤ) : ℚ) / c| < 2 ^ 1024 - 2 ^ 970
    | .int a, .int b, .float _ => |((a - b : ℤ) : ℚ)| < 2 ^ 1024 - 2 ^ 970
    | mx, mn, st => mx.FitsFloat ∧ mn.FitsFloat ∧ st.FitsFloat

/-- A parameter whose loop iteration does not raise: a button or checkbox, or one whose steps
value is defined. -/
def StepOk (item : ItemInfo) : Prop :=
  item.type = "button" ∨ item.type = "checkbox" ∨ StepsDefined item

instance : DecidablePred JsonNum.FitsFloat := fun x => by
  cases x <;> unfold JsonNum.FitsFloat <;> infer_instance

instance : DecidablePred StepsDefined := fun item => by
  unfold StepsDefined; split <;> infer_instance

instance : DecidablePred StepOk := fun item => by
  unfold StepOk; infer_instance

theorem cast_shiftLeft (a b : ℕ) : ((a <<< b : ℕ) : ℚ) = a * 2 ^ b := by
  rw [Nat.shiftLeft_eq, Nat.cast_mul, Nat.cast_pow, Nat.cast_ofNat]

theorem cast_two_pow_sub_one_mul (a b : ℕ) :
    ((2 ^ a - 1 : ℕ) : ℚ) * 2 ^ b = 2 ^ (a + b) - 2 ^ b := by
  rw [Nat.cast_sub Nat.one_le_two_pow, Nat.cast_pow, Nat.cast_ofNat, Nat.cast_one, sub_mul,
    one_mul, pow_add]

theorem floatLimit_cast : ((pyFloatLimit : ℕ) : ℚ) = 2 ^ 1024 - 2 ^ 970 := by
  rw [pyFloatLimit, cast_shiftLeft, cast_two_pow_sub_one_mul]

theorem abs_intCast (n : ℤ) : |(n : ℚ)| = ((n.natAbs : ℕ) : ℚ) := by
  rw [Nat.cast_natAbs, Int.cast_abs]

theorem fitsFloat_int (n : ℤ) : (JsonNum.int n).FitsFloat ↔ n.natAbs < pyFloatLimit := by
  rw [JsonNum.FitsFloat, ← floatLimit_cast, abs_intCast, Nat.cast_lt]

theorem fitsFloat_float (x : ℚ) : (JsonNum.float x).FitsFloat := trivial

/-- The quotient of two ints is in the float range exactly when the dividend is below the limit
times the divisor. -/
theorem abs_div_lt_limit (a c : ℤ) (hc : c ≠ 0) :
    |(a : ℚ) / c| < 2 ^ 1024 - 2 ^ 970 ↔ a.natAbs < pyFloatLimit * c.natAbs := by
  have hpos : (0 : ℚ) < |(c : ℚ)| := abs_pos.mpr (Int.cast_ne_zero.mpr hc)
  rw [abs_div, div_lt_iff₀ hpos, ← floatLimit_cast, abs_intCast, abs_intCast, ← Nat.cast_mul,
    Nat.cast_lt]

/-- Making a float of a JSON number raises exactly when it does not fit. -/
theorem pyToFloat_eq (x : JsonNum) :
    pyToFloat x = if x.FitsFloat then .ok x else .error .overflow := by
  cases x with
  | float x => rfl
  | int n =>
    simp only [pyToFloat, fitsFloat_int, ← not_le]
    split_ifs <;> rfl

theorem pyToFloat_eq_ok {x : JsonNum} {y : ℚ} :
    pyToFloat x = .ok y ↔ x.FitsFloat ∧ y = x := by
  rw [pyToFloat_eq]
  split_ifs with h <;> simp [h, eq_comm]

theorem pyToFloat_eq_error {x : JsonNum} {e : PyError} :
    pyToFloat x = .error e ↔ ¬x.FitsFloat ∧ e = .overflow := by
  rw [pyToFloat_eq]
  split_ifs with h <;> simp [h, eq_comm]

theorem except_bind_eq_ok {ε α β : Type} {x : Except ε α} {f : α → Except ε β} {b : β} :
    x.bind f = .ok b ↔ ∃ a, x = .ok a ∧ f a = .ok b := by
  cases x <;> simp [Except.bind]

theorem except_bind_eq_error {ε α β : Type} {x : Except ε α} {f : α → Except ε β} {e : ε} :
    x.bind f = .error e ↔ x = .error e ∨ ∃ a, x = .ok a ∧ f a = .error e := by
  cases x <;> simp [Except.bind]

theorem fitsFloat_int_iff_abs (n : ℤ) :
    (JsonNum.int n).FitsFloat ↔ |(n : ℚ)| < 2 ^ 1024 - 2 ^ 970 := Iff.rfl

/-- Subtraction with a float operand: both operands are made floats. -/
theorem pySub_float_eq_ok {a b : JsonNum} (h : ¬∃ m n, a = .int m ∧ b = .int n) {d : JsonNum} :
    pySub a b = .ok d ↔ a.FitsFloat ∧ b.FitsFloat ∧ .float (a - b) = d := by
  cases a <;> cases b
  case int.int m n => exact absurd ⟨m, n, rfl, rfl⟩ h
  all_goals simp [pySub, bind, except_bind_eq_ok, pure, Except.pure, pyToFloat_eq_ok,
    fitsFloat_float, JsonNum.val, and_assoc, exists_and_left, exists_eq_left]

/-- Division with a float operand: both operands are made floats, then the divisor must not be
zero. -/
theorem pyDiv_float_eq_ok {a b : JsonNum} (h : ¬∃ m n, a = .int m ∧ b = .int n) {q : ℚ} :
    pyDiv a b = .ok q ↔ a.FitsFloat ∧ b.FitsFloat ∧ (b : ℚ) ≠ 0 ∧ a / b = q := by
  cases a <;> cases b
  case int.int m n => exact absurd ⟨m, n, rfl, rfl⟩ h
  all_goals simp [pyDiv, bind, except_bind_eq_ok, pyToFloat_eq_ok, fitsFloat_float, JsonNum.val,
    ite_eq_iff, pure, Except.pure, and_assoc, exists_and_left, exists_eq_left]

theorem pySub_error {a b : JsonNum} {e : PyError} (h : pySub a b = .error e) : e = .overflow := by
  unfold pySub at h
  split at h
  · cases h
  · simp only [bind, except_bind_eq_error, pure, Except.pure, reduceCtorEq, and_false,
      exists_false, or_false] at h
    rcases h with h | ⟨_, -, h⟩ <;> exact (pyToFloat_eq_error.mp h).2

theorem pyDiv_error {a b : JsonNum} {e : PyError} (h : pyDiv a b = .error e) :
    e = .zeroDivision ∨ e = .overflow := by
  unfold pyDiv at h
  split at h
  · split_ifs at h <;> cases h
    · exact .inl rfl
    · exact .inr rfl
  · simp only [bind, except_bind_eq_error, pure, Except.pure] at h
    rcases h with h | ⟨_, -, h | ⟨_, -, h⟩⟩
    · exact .inr (pyToFloat_eq_error.mp h).2
    · exact .inr (pyToFloat_eq_error.mp h).2
    · split_ifs at h
      cases h
      exact .inl rfl

/-- **The steps value meets its specification.** Two int bounds subtract exactly; otherwise both
operations work on floats (`pySub_float_eq_ok`, `pyDiv_float_eq_ok`). -/
theorem stepsValue_ok_iff (item : ItemInfo) : (∃ q, stepsValue item = .ok q) ↔ StepsDefined item := by
  obtain ⟨_, _, _, mn, mx, st, _⟩ := item
  simp only [stepsValue, bind, except_bind_eq_ok]
  rcases mx with a | x <;> rcases mn with b | y
  case int.int =>
    simp only [pySub, Except.ok.injEq, exists_eq_left']
    rcases st with c | z
    · simp only [StepsDefined, JsonNum.val]
      by_cases hc : c = 0
      · simp [pyDiv, hc]
      · rw [abs_div_lt_limit (a - b) c hc]
        simp [pyDiv, hc, ite_eq_iff]
    · simp (disch := simp) only [StepsDefined, pyDiv_float_eq_ok, ← fitsFloat_int_iff_abs,
        fitsFloat_float, true_and, exists_and_left, exists_eq', and_true]
      exact and_comm
  all_goals
    simp (disch := simp) only [StepsDefined, pySub_float_eq_ok, pyDiv_float_eq_ok,
      and_assoc, exists_eq_left, exists_eq_left', exists_and_left, exists_eq]
    tauto

/-- The steps value raises nothing but `ZeroDivisionError` and `OverflowError`. -/
theorem stepsValue_error {item : ItemInfo} {e : PyError} (h : stepsValue item = .error e) :
    e = .zeroDivision ∨ e = .overflow := by
  simp only [stepsValue, bind, except_bind_eq_error] at h
  rcases h with h | ⟨_, -, h⟩
  · exact .inr (pySub_error h)
  · exact pyDiv_error h

theorem stepCheck_ok_iff (item : ItemInfo) : (∃ u, stepCheck item = .ok u) ↔ StepOk item := by
  rw [StepOk, or_assoc.symm, ← isToggle_iff, ← stepsValue_ok_iff, stepCheck]
  cases isToggle item.type <;> cases stepsValue item <;> simp [Except.map, pure, Except.pure]

theorem addParams_cons_ok {c : ParamContext} {item : ItemInfo} {items : List ItemInfo}
    {s s' : ParamState} (h : addParams c (item :: items) s = .ok s') :
    addParams c items (s.extend c item) = .ok s' := by
  rw [addParams_cons, addParam_eq] at h
  cases hc : stepCheck item <;> simp [hc, Except.map, Except.bind] at h
  exact h

/-- **The loop raises exactly at a parameter whose check fails.** The parameter loop completes
exactly when every parameter is a button or checkbox or has a defined steps value. -/
theorem addParams_ok_iff (c : ParamContext) (items : List ItemInfo) (s : ParamState) :
    (∃ s', addParams c items s = .ok s') ↔ ∀ item ∈ items, StepOk item := by
  induction items generalizing s with
  | nil => simp [addParams]
  | cons item items ih =>
    rw [List.forall_mem_cons, ← stepCheck_ok_iff, ← ih (s.extend c item), addParams_cons,
      addParam_eq]
    cases stepCheck item <;> simp [Except.map, Except.bind]

theorem stepCheck_error {item : ItemInfo} {e : PyError} (h : stepCheck item = .error e) :
    e = .zeroDivision ∨ e = .overflow := by
  unfold stepCheck at h
  split at h
  · cases h
  · cases hv : stepsValue item <;> simp only [hv, Except.map, Except.error.injEq, reduceCtorEq] at h
    exact h ▸ stepsValue_error hv

/-- The loop raises nothing but `ZeroDivisionError` and `OverflowError`. -/
theorem addParams_error {c : ParamContext} {items : List ItemInfo} {s : ParamState}
    {e : PyError} (h : addParams c items s = .error e) : e = .zeroDivision ∨ e = .overflow := by
  induction items generalizing s with
  | nil => cases h
  | cons item items ih =>
    rw [addParams_cons, addParam_eq] at h
    cases hc : stepCheck item <;> simp only [hc, Except.map, Except.bind, Except.error.injEq] at h
    · exact h ▸ stepCheck_error hc
    · exact ih h

/-- **The run lemma.** A loop that completes has appended the blocks of the parameters in
order to both patchers, with their lines, and has the polyphony accumulators of the
analysis of every parameter with the id of its relay. -/
theorem addParams_ok {c : ParamContext} {items : List ItemInfo} {s s' : ParamState}
    (h : addParams c items s = .ok s') :
    s'.patcher.boxes = s.patcher.boxes ++ (items.map (paramTopBoxes c.test)).flatten ∧
      s'.patcher.lines = s.patcher.lines ++
        paramsTopLines c.test c.rnbo items s.patcher.boxes.length ∧
      s'.subPatch.boxes = s.subPatch.boxes ++ (items.map (paramSubBoxes c.midi c.test)).flatten ∧
      s'.subPatch.lines = s.subPatch.lines ++
        paramsSubLines c.midi c.test c.codebox items s.subPatch.boxes.length ∧
      s'.voicing = voicingFrom c items s.subPatch.boxes.length s.voicing := by
  induction items generalizing s with
  | nil => cases h; simp [paramsTopLines, paramsSubLines, voicingFrom]
  | cons item items ih =>
    obtain ⟨h1, h2, h3, h4, h5⟩ := ih (addParams_cons_ok h)
    simp only [ParamState.extend, List.length_append, List.append_assoc] at h1 h2 h3 h4 h5
    simp [h1, h2, h3, h4, h5, paramsTopLines, paramsSubLines, voicingFrom]

end FaustRnbo
