import DaqBus.Proofs.Channel.Connected
import DaqBus.Proofs.Tree.Content

/-!
# What the alarm register tells

The register holds two words, one for the alarms of the framework and one for those of the driver. A first
word that is no byte is refused. A second word that is no byte is taken for no alarm of the driver, and that
is the only way in which the register is misread.
-/

namespace DaqBus

namespace ChannelAlarms

variable {alarms : ChannelAlarms} {words : List (List Char)}

/-- The first word is the framework's alarms and the second, if there is one, the driver's. -/
def Spelled : List (List Char) → ChannelAlarms → Prop
  | [], _ => False
  | [first], alarms => Text.Spells first alarms.framework.toNat ∧ alarms.driver = 0
  | first :: second :: _, alarms =>
    Text.Spells first alarms.framework.toNat ∧ Text.Spells second alarms.driver.toNat

/-- The second word is no byte, and the driver is taken to report no alarm. -/
def Misread : List (List Char) → ChannelAlarms → Prop
  | first :: second :: _, alarms =>
    Text.Spells first alarms.framework.toNat ∧
      (∀ driver : UInt8, ¬ Text.Spells second driver.toNat) ∧ alarms.driver = 0
  | _, _ => False

theorem Misread.not_spelled (h : Misread words alarms) (other : ChannelAlarms) :
    ¬ Spelled words other := by
  match words, h with
  | _ :: _ :: _, ⟨_, hsecond, _⟩ => exact fun hspelled => hsecond _ hspelled.2

/-- One case for each number of words: none, one, and two or more. -/
theorem ofText?_eq_some_iff {text : String} (hwords : Text.Words text.toList words) :
    ofText? text = some alarms ↔ Spelled words alarms ∨ Misread words alarms := by
  rw [← Text.words_iff.mp hwords, ofText?]
  rcases Text.fields text with _ | ⟨first, _ | ⟨second, rest⟩⟩
  · simp [Spelled, Misread]
  · simp only [List.map_cons, List.map_nil, Spelled, Misread, or_false, Option.map_eq_some_iff,
      Text.byte?_eq_some_iff]
    constructor
    · rintro ⟨framework, hfirst, rfl⟩
      exact ⟨hfirst, rfl⟩
    · rintro ⟨hfirst, hdriver⟩
      exact ⟨_, hfirst, by rw [← hdriver]; rfl⟩
  · simp only [List.map_cons, Spelled, Misread, Option.map_eq_some_iff, Text.byte?_eq_some_iff,
      List.head?_cons, Option.bind_some]
    cases hsecond : Text.byte? second with
    | none =>
        have hnone (driver : UInt8) : ¬ Text.Spells second.toList driver.toNat := by
          rw [← Text.byte?_eq_some_iff, hsecond]
          nofun
        constructor
        · rintro ⟨framework, hfirst, rfl⟩
          exact .inr ⟨hfirst, hnone, rfl⟩
        · rintro (⟨-, hspells⟩ | ⟨hfirst, -, hdriver⟩)
          · exact absurd hspells (hnone _)
          · exact ⟨_, hfirst, by rw [Option.getD_none, ← hdriver]⟩
    | some driver =>
        have hspells : Text.Spells second.toList driver.toNat := Text.byte?_eq_some_iff.mp hsecond
        constructor
        · rintro ⟨framework, hfirst, rfl⟩
          exact .inl ⟨hfirst, hspells⟩
        · rintro (⟨hfirst, hother⟩ | ⟨-, hnone, -⟩)
          · have hdriver : driver = alarms.driver := UInt8.toNat_inj.mp (hspells.unique hother)
            exact ⟨_, hfirst, by rw [Option.getD_some, hdriver]⟩
          · exact absurd hspells (hnone _)

/-- The outcome is what the words spell, or else the register is refused. -/
structure Truthful (register : Attribute) (words : List (List Char))
    (outcome : Except BusError ChannelAlarms) : Prop where
  spelled : ∀ alarms, outcome = .ok alarms → Spelled words alarms
  refused : (∀ alarms, ¬ Spelled words alarms) →
    outcome = .error (register.refusal .invalidArgument)

end ChannelAlarms

namespace Channel

open ChannelAlarms

variable {S : Type} [Backend S] {channel : Channel} {bus : Bus S} {content : Bytes}

theorem fst_alarms (hopen : bus.isClosed channel.alarmRegister.opening.number = false)
    (hfile : Backend.Holds bus.store channel.alarmRegister.path content) :
    (channel.alarms bus).1 =
      match ofText? (Attribute.textOf content) with
      | some alarms => .ok alarms
      | none => .error (channel.alarmRegister.refusal .invalidArgument) := by
  have htext : (channel.alarmRegister.readText bus).1 = .ok (Attribute.textOf content) := by
    unfold Attribute.readText
    rw [Attribute.access_onStore hopen, Backend.fst_readText hfile]
    rfl
  unfold alarms
  rw [Effect.bind_of_ok (Prod.ext htext rfl)]
  cases ofText? (Attribute.textOf content) <;> rfl

/-- **When alarms are misread.** The register is refused when its words spell no alarms, except that a
second word that is no byte counts as no alarm of the driver. So the outcome is truthful exactly when
there is no such word. -/
theorem alarms_truthful_iff (hopen : bus.isClosed channel.alarmRegister.opening.number = false)
    (hfile : Backend.Holds bus.store channel.alarmRegister.path content) :
    ∃ words, Text.Words (Backend.textFrom content) words ∧
      (∀ alarms, (channel.alarms bus).1 = .ok alarms ↔ Spelled words alarms ∨ Misread words alarms) ∧
      ((channel.alarms bus).1 = .error (channel.alarmRegister.refusal .invalidArgument) ↔
        ∀ alarms, ¬ Spelled words alarms ∧ ¬ Misread words alarms) ∧
      (Truthful channel.alarmRegister words (channel.alarms bus).1 ↔
        ∀ alarms, ¬ Misread words alarms) := by
  obtain ⟨words, hwords⟩ := Text.exists_words (Attribute.textOf content).toList
  have hok (alarms : ChannelAlarms) :
      (channel.alarms bus).1 = .ok alarms ↔ Spelled words alarms ∨ Misread words alarms := by
    rw [fst_alarms hopen hfile, ← ofText?_eq_some_iff hwords]
    cases ofText? (Attribute.textOf content) <;> simp
  have hrefused :
      (channel.alarms bus).1 = .error (channel.alarmRegister.refusal .invalidArgument) ↔
        ∀ alarms, ¬ Spelled words alarms ∧ ¬ Misread words alarms := by
    simp only [← not_or, ← ofText?_eq_some_iff hwords, ← Option.eq_none_iff_forall_ne_some]
    rw [fst_alarms hopen hfile]
    cases ofText? (Attribute.textOf content) <;> simp
  refine ⟨words, Text.words_of_trimNewlines hwords, hok, hrefused, ?_⟩
  constructor
  · intro htruthful alarms hmisread
    exact hmisread.not_spelled alarms (htruthful.spelled alarms ((hok alarms).mpr (.inr hmisread)))
  · intro hnone
    refine ⟨fun alarms hout => ?_, fun hspelled => ?_⟩
    · exact ((hok alarms).mp hout).resolve_right (hnone alarms)
    · exact hrefused.mpr fun alarms => ⟨hspelled alarms, hnone alarms⟩

def benchAlarmed (text : String) : Bus MemoryBus :=
  { bench with store := bench.store.setFile benchInput.alarmRegister.path (Text.Utf8.encode text) }

theorem alarms_truthful_iff_tooLarge :
    (benchInput.alarms (benchAlarmed "1 300\n")).1 = .ok ⟨1, 0⟩ ∧
      ¬ Truthful benchInput.alarmRegister [['1'], ['3', '0', '0']]
        (benchInput.alarms (benchAlarmed "1 300\n")).1 := by
  have hfile : Backend.Holds (benchAlarmed "1 300\n").store benchInput.alarmRegister.path
      (Text.Utf8.encode "1 300\n") := MemoryBus.holds_of_file rfl rfl
  obtain ⟨words, hwords, hok, -, htruthful⟩ :=
    alarms_truthful_iff (rfl : (benchAlarmed "1 300\n").isClosed 0 = false) hfile
  rw [Backend.textFrom_encode (by decide)] at hwords
  obtain rfl : [['1'], ['3', '0', '0']] = words := by
    rw [← Text.words_iff.mp hwords]
    decide
  have hfirst : Text.Spells ['1'] 1 := .of_digits (by decide) rfl
  have hsecond : Text.Spells ['3', '0', '0'] 300 := .of_digits (by decide) rfl
  have hmisread : Misread [['1'], ['3', '0', '0']] ⟨1, 0⟩ := by
    refine ⟨hfirst, fun driver hdriver => ?_, rfl⟩
    exact absurd (hsecond.unique hdriver) (Nat.ne_of_gt (Nat.lt_trans driver.toNat_lt (by decide)))
  refine ⟨(hok _).mpr (.inr hmisread), ?_⟩
  rw [htruthful]
  exact fun hnone => hnone _ hmisread

end Channel

end DaqBus
