import FaustRnbo.Options
import FaustRnbo.Patch

/-!
# Loading the Files

`load_files_create_rnbo_patch` reads the codebox and JSON files of the DSP unit, and those of
the effect unit when both of their paths are given, and calls `create_rnbo_patch`. The MIDI
flag it passes is the `--midi` flag or the JSON's `[midi:on]`; the voice count is the
`--nvoices` argument when it is positive, else the JSON's `[nvoices:n]` when `n` is nonzero,
else `-1`. The two branches write the voice count as two separate expressions, and only the
one of the branch without an effect tests `nvoices is not None` before `nvoices > 0`.

The contents of the files are the inputs of the model (`UnitFiles`). `--nvoices` is an
`Option Int`: `argparse` leaves it `None` when the option is omitted. `midi or options[0]` is
`None` when MIDI is off and the JSON has no options entry; the script only tests the truth of
the flag, so it is kept as the `Bool` it is read as.

## Main results

* `loadFilesCreateRnboPatch_branches`: without an effect unit the script passes the voice count
  of the specification; with one it passes the same flag and count when `--nvoices` is given,
  and raises `TypeError` when it is omitted.
* `loadFilesCreateRnboPatch_succeeds_iff`: the inputs on which the script raises.
-/

namespace FaustRnbo

/-- The files of one unit, as read: the codebox text and the parsed JSON document. -/
structure UnitFiles where
  codeboxCode : String
  json : DspJson

/-- `midi or options[0]`, as a truth value. -/
def midiFlag (midi : Bool) (options : Option Bool × Option Nat) : Bool :=
  midi || options.1 == some true

/-- `options[1] if options[1] else -1`: the JSON's voice count, unless it is absent or `0`. -/
def jsonVoices (options : Option Bool × Option Nat) : Int :=
  match options.2 with
  | some n => if n = 0 then -1 else n
  | none => -1

/-- The voice count of the branch with an effect unit,
`nvoices if nvoices > 0 else options[1] if options[1] else -1`: `None > 0` raises. -/
def effectVoices (nvoices : Option Int) (options : Option Bool × Option Nat) :
    Except PyError Int :=
  match nvoices with
  | some n => .ok (if 0 < n then n else jsonVoices options)
  | none => .error .typeError

/-- The voice count of the branch without an effect unit,
`nvoices if nvoices is not None and nvoices > 0 else options[1] if options[1] else -1`. -/
def dspVoices (nvoices : Option Int) (options : Option Bool × Option Nat) : Int :=
  match nvoices with
  | some n => if 0 < n then n else jsonVoices options
  | none => jsonVoices options

/-- `load_files_create_rnbo_patch`, from the contents of the files: `get("inputs", 0)` and
`get("outputs", 0)` for the channel counts, `extract_items_info` for the parameters, and
`get_midi_and_nvoices` on the DSP unit's JSON. -/
def loadFilesCreateRnboPatch (D : DecimalDigits) (dspName exportPath cppFilename : String)
    (dsp : UnitFiles) (effect : Option UnitFiles) (midi : Bool) (nvoices : Option Int)
    (compile test : Bool) : Except PyError (Patcher Box) := do
  let dspItemsInfoList := extractItemsInfo dsp.json
  let dspNumInputs := dsp.json.inputs.getD 0
  let dspNumOutputs := dsp.json.outputs.getD 0
  let options := getMidiAndNvoices D dsp.json
  match effect with
  | some effect =>
    let effectItemsInfoList := extractItemsInfo effect.json
    let effectNumInputs := effect.json.inputs.getD 0
    let effectNumOutputs := effect.json.outputs.getD 0
    let voices ← effectVoices nvoices options
    createRnboPatch dspName exportPath cppFilename dsp.codeboxCode dspItemsInfoList dspNumInputs
      dspNumOutputs (midiFlag midi options) voices
      (some ⟨effect.codeboxCode, effectItemsInfoList, effectNumInputs, effectNumOutputs⟩) compile
      test
  | none =>
    createRnboPatch dspName exportPath cppFilename dsp.codeboxCode dspItemsInfoList dspNumInputs
      dspNumOutputs (midiFlag midi options) (dspVoices nvoices options) none compile test

/-! ### The voice count -/

/-- The voice count in the words of the specification: `nvoices` when that is a positive
integer, else the JSON's `[nvoices:n]` when `n` is present and nonzero, else `-1`. -/
def specVoices (nvoices : Option Int) (jsonN : Option Nat) : Int :=
  match nvoices.filter (0 < ·), jsonN.filter (· ≠ 0) with
  | some n, _ => n
  | none, some n => n
  | none, none => -1

theorem dspVoices_eq_spec (nvoices : Option Int) (options : Option Bool × Option Nat) :
    dspVoices nvoices options = specVoices nvoices options.2 := by
  rcases options with ⟨_, _ | j⟩ <;> rcases nvoices with _ | n
  · rfl
  · by_cases hn : 0 < n <;> simp [dspVoices, specVoices, jsonVoices, Option.filter, hn]
  · by_cases hj : j = 0 <;> simp [dspVoices, specVoices, jsonVoices, Option.filter, hj]
  · by_cases hn : 0 < n <;> by_cases hj : j = 0 <;>
      simp [dspVoices, specVoices, jsonVoices, Option.filter, hn, hj]

theorem effectVoices_eq (nvoices : Option Int) (options : Option Bool × Option Nat) :
    effectVoices nvoices options =
      match nvoices with
      | some _ => .ok (dspVoices nvoices options)
      | none => .error .typeError := by
  cases nvoices <;> rfl

/-- **The two branches.** Without an effect unit, `create_rnbo_patch` gets the MIDI flag
`midi or [midi:on]` and the voice count of the specification. With an effect unit it gets the
same flag and the same count when `--nvoices` is given; when it is omitted the script raises
`TypeError` before creating anything, whatever the JSON. -/
theorem loadFilesCreateRnboPatch_branches (D : DecimalDigits)
    (dspName exportPath cppFilename : String) (dsp effect : UnitFiles) (midi : Bool)
    (nvoices : Option Int) (compile test : Bool) :
    loadFilesCreateRnboPatch D dspName exportPath cppFilename dsp none midi nvoices compile test =
        createRnboPatch dspName exportPath cppFilename dsp.codeboxCode (extractItemsInfo dsp.json)
          (dsp.json.inputs.getD 0) (dsp.json.outputs.getD 0)
          (midi || (getMidiAndNvoices D dsp.json).1 == some true)
          (specVoices nvoices (getMidiAndNvoices D dsp.json).2) none compile test ∧
      loadFilesCreateRnboPatch D dspName exportPath cppFilename dsp (some effect) midi nvoices
          compile test =
        match nvoices with
        | some _ =>
          createRnboPatch dspName exportPath cppFilename dsp.codeboxCode
            (extractItemsInfo dsp.json) (dsp.json.inputs.getD 0) (dsp.json.outputs.getD 0)
            (midi || (getMidiAndNvoices D dsp.json).1 == some true)
            (specVoices nvoices (getMidiAndNvoices D dsp.json).2)
            (some ⟨effect.codeboxCode, extractItemsInfo effect.json, effect.json.inputs.getD 0,
              effect.json.outputs.getD 0⟩) compile test
        | none => .error .typeError := by
  refine ⟨by simp [loadFilesCreateRnboPatch, midiFlag, dspVoices_eq_spec], ?_⟩
  cases nvoices <;>
    simp [loadFilesCreateRnboPatch, midiFlag, effectVoices_eq, ← dspVoices_eq_spec, bind,
      Except.bind]

/-! ### When the script raises -/

/-- **When `load_files_create_rnbo_patch` raises**, once the files are read. It builds the patch
exactly when `--nvoices` is given if the effect files are, and `add_rnbo_object` completes, with
the script's MIDI flag, on the DSP unit and on the effect unit when its code is not empty. -/
theorem loadFilesCreateRnboPatch_succeeds_iff (D : DecimalDigits)
    (dspName exportPath cppFilename : String) (dsp : UnitFiles) (effect : Option UnitFiles)
    (midi : Bool) (nvoices : Option Int) (compile test : Bool) :
    (∃ P, loadFilesCreateRnboPatch D dspName exportPath cppFilename dsp effect midi nvoices
        compile test = .ok P) ↔
      (effect.isSome → nvoices.isSome) ∧
        UnitOk (midiFlag midi (getMidiAndNvoices D dsp.json)) (dsp.json.inputs.getD 0)
          (dsp.json.outputs.getD 0) (extractItemsInfo dsp.json) ∧
        ∀ e ∈ effect, e.codeboxCode ≠ "" →
          UnitOk (midiFlag midi (getMidiAndNvoices D dsp.json)) (e.json.inputs.getD 0)
            (e.json.outputs.getD 0) (extractItemsInfo e.json) := by
  cases effect with
  | none => simp [loadFilesCreateRnboPatch, createRnboPatch_ok_iff_added, EffectUnit.added]
  | some e =>
    cases nvoices with
    | none => simp [loadFilesCreateRnboPatch, effectVoices, bind, Except.bind]
    | some n =>
      simp [loadFilesCreateRnboPatch, effectVoices, bind, Except.bind,
        createRnboPatch_ok_iff_added, EffectUnit.added_eq_some]

end FaustRnbo
