import Mathlib.Data.Nat.Cast.Order.Field
import Mathlib.Tactic.FieldSimp
import Mathlib.Tactic.Ring
import Skatebot.Library.Rounding

/-!
# `RPiMonitorNode`

The node that watches the computer itself.  It reports how busy the processors
have been since its last report, from the time that they were idle, and how
much of the memory is in use.
-/

namespace Skatebot

open Library

/-! ## The report -/

/-- A value of the report. -/
inductive StatusValue (R : Type)
  | number (value : Nat)
  /-- Printed with two decimals and a percent sign. -/
  | percent (value : Double R)
  | text (value : String)
  deriving DecidableEq

/-- What a check leaves in its `DiagnosticStatusWrapper`. -/
structure StatusWrapper (R : Type) where
  level : Int
  message : String
  values : List (String × StatusValue R)
  deriving DecidableEq

namespace StatusWrapper

def ok : Int := 0
def warn : Int := 1
def error : Int := 2

end StatusWrapper

/-- `UsageData`. -/
structure UsageData (R : Type) where
  valuesRead : Bool
  /-- The usage in percent; `none` where it is not a number. -/
  totalUsage : Double R
  deriving DecidableEq

/-- `RPiMonitorNode`.  Times are in nanoseconds. -/
structure RPiMonitorNode where
  lastIdleJiffies : UInt64
  lastIdleCalled : Int
  deriving DecidableEq

/-- The fields of `struct sysinfo` that the node reads. -/
structure SysInfo where
  totalram : UInt64
  freeram : UInt64
  memUnit : UInt32
  deriving DecidableEq

namespace RPiMonitorNode

variable {R : Type} [Field R] [LinearOrder R]

/-- `RPiMonitorNode::load_dict_`. -/
def loadDict (level : Int) : Option String :=
  if level = StatusWrapper.ok then some "OK"
  else if level = StatusWrapper.warn then some "high load"
  else if level = StatusWrapper.error then some "very high load"
  else none

omit [Field R] in
/-- The level for a usage by two limits.  What is not a number reaches
neither. -/
def usageLevel (usageError usageWarn : R) : Double R → Int
  | none => StatusWrapper.ok
  | some totalUsage =>
      if totalUsage ≥ usageError then StatusWrapper.error
      else if totalUsage ≥ usageWarn then StatusWrapper.warn
      else StatusWrapper.ok

omit [Field R] in
@[simp] theorem usageLevel_some (usageError usageWarn totalUsage : R) :
    usageLevel usageError usageWarn (some totalUsage) =
      if totalUsage ≥ usageError then StatusWrapper.error
      else if totalUsage ≥ usageWarn then StatusWrapper.warn
      else StatusWrapper.ok := rfl

/-! ## Processors -/

/-- The constant `kJiffiesPerSecond`. -/
def jiffiesPerSecond : UInt32 := 100

/-- `RPiMonitorNode::RPiMonitorNode`. -/
def init (now : Int) : RPiMonitorNode where
  lastIdleJiffies := 0
  lastIdleCalled := now

/-- The local variable `idle_per_cpu_jiffies`. -/
def idlePerCpuJiffies (node : RPiMonitorNode) (cpuCount : UInt32)
    (idleJiffies : UInt64) : UInt32 :=
  (idleJiffies - node.lastIdleJiffies).toUInt32 / cpuCount

/-- The local variable `interval_s`. -/
def intervalS (node : RPiMonitorNode) (callTime : Int) : R :=
  ((callTime - node.lastIdleCalled : Int) : R) / 1e9

/-- The local variable `usage_percent`; `none` where the source divides by
zero. -/
def usagePercent (node : RPiMonitorNode) (cpuCount : UInt32)
    (idleJiffies : UInt64) (callTime : Int) : Option R :=
  if 0 < node.lastIdleJiffies then
    if cpuCount = 0 then none
    else
      let usedPerCpuJiffies :=
        jiffiesPerSecond - node.idlePerCpuJiffies cpuCount idleJiffies
      let usedTimeS : R := usedPerCpuJiffies.toNat * node.intervalS callTime
      some (usedTimeS / 100.0 * 100.0)
  else some 0

/-- `RPiMonitorNode::ReadCPUUsageData`, with the jiffies and the time that it
reads. -/
def readCPUUsageData (node : RPiMonitorNode) (cpuCount : UInt32)
    (idleJiffies : UInt64) (callTime : Int) :
    Option (UsageData R × RPiMonitorNode) := do
  let usagePercent ← node.usagePercent cpuCount idleJiffies callTime
  some
    ({ valuesRead := true, totalUsage := some usagePercent },
      { lastIdleJiffies := idleJiffies, lastIdleCalled := callTime })

/-- `RPiMonitorNode::CheckCPUUsage`. -/
def checkCPUUsage (node : RPiMonitorNode) (cpuCount : UInt32)
    (idleJiffies : UInt64) (callTime : Int) :
    Option (StatusWrapper R × RPiMonitorNode) := do
  let (usageData, node) ← node.readCPUUsageData cpuCount idleJiffies callTime
  let level :=
    if usageData.valuesRead then usageLevel 90.0 80.0 usageData.totalUsage
    else StatusWrapper.ok
  let values :=
    if usageData.valuesRead then
      [("Number CPUs", StatusValue.number cpuCount.toNat),
        ("All CPUs", StatusValue.percent usageData.totalUsage)]
    else [("File open error", StatusValue.text "/proc/stat")]
  let message ← loadDict level
  some ({ level := level, message := message, values := values }, node)

/-! ## Memory -/

/-- `RPiMonitorNode::ReadMemoryUsageData`. -/
def readMemoryUsageData (memoryInfo : SysInfo) : UsageData R :=
  let ramTotal := memoryInfo.totalram * memoryInfo.memUnit.toUInt64
  let ramInUse :=
    (memoryInfo.totalram - memoryInfo.freeram) * memoryInfo.memUnit.toUInt64
  let totalUsage : Double R := do
    let share ←
      Double.quotient ((ramTotal - ramInUse).toNat : R) (ramTotal.toNat : R)
    some (share * 100.0)
  { valuesRead := true, totalUsage := totalUsage }

/-- `RPiMonitorNode::CheckMemoryUsage`. -/
def checkMemoryUsage (memoryInfo : SysInfo) : Option (StatusWrapper R) := do
  let usageData := readMemoryUsageData memoryInfo
  let level := usageLevel 95.0 80.0 usageData.totalUsage
  let message ← loadDict level
  some
    { level := level
      message := message
      values := [("RAM used", StatusValue.percent usageData.totalUsage)] }

/-! ## The levels -/

omit [Field R] in
/-- Every level has a text. -/
theorem loadDict_usageLevel (usageError usageWarn : R) (usage : Double R) :
    ∃ message, loadDict (usageLevel usageError usageWarn usage) =
      some message := by
  cases usage with
  | none => exact ⟨_, rfl⟩
  | some totalUsage =>
      rw [usageLevel_some]
      split_ifs <;> exact ⟨_, rfl⟩

/-! ## The usage of the processors -/

variable [IsStrictOrderedRing R]

/-- One reading of the idle time and of the clock. -/
structure Reading where
  idleJiffies : UInt64
  callTime : Int
  deriving DecidableEq

/-- The jiffies that the processors were idle between two readings. -/
def idleBetween (first second : Reading) : Nat :=
  second.idleJiffies.toNat - first.idleJiffies.toNat

omit [LinearOrder R] [IsStrictOrderedRing R] in
/-- The seconds between two readings. -/
def secondsBetween (first second : Reading) : R :=
  ((second.callTime - first.callTime : Int) : R) / 1e9

/-- Two readings of some processors: the first found idle time, time has passed
between them, and no processor was idle for longer than that. -/
structure Consecutive (R : Type) [Field R] [LinearOrder R] (cpuCount : UInt32)
    (first second : Reading) : Prop where
  cpus : 0 < cpuCount.toNat
  started : 0 < first.idleJiffies
  ordered : first.idleJiffies ≤ second.idleJiffies
  later : 0 < (secondsBetween first second : R)
  bounded : (idleBetween first second : R) ≤
    100.0 * cpuCount.toNat * secondsBetween first second

/-- The usage is a percentage, and that of the time in which the processors
were not idle, up to one jiffy for each of them. -/
structure CorrectUsage (cpus idle : Nat) (interval usage : R) : Prop where
  nonnegative : 0 ≤ usage
  atMost : usage ≤ 100.0
  near : |usage - 100.0 * (1 - idle / (100.0 * cpus * interval))| ≤ 1 / interval

/-- The whole jiffies that one processor was idle, from 32 bits of their
number. -/
def wholeIdle (cpus idle : Nat) : Nat := idle % 2 ^ 32 / cpus

/-- The interval is near one second, or the idle time near what makes up for
it. -/
structure Punctual (cpus idle : Nat) (interval : R) : Prop where
  unwrapped : wholeIdle cpus idle ≤ 100
  busy : idle < cpus → interval ≤ 1
  balanced :
    |(interval - 1) * (100.0 * interval - (interval + 1) * wholeIdle cpus idle) +
      (idle / cpus - wholeIdle cpus idle)| ≤ 1

theorem idlePerCpuJiffies_toNat
    {first second : Reading}
    (ordered : first.idleJiffies ≤ second.idleJiffies)
    (cpuCount : UInt32) :
    (idlePerCpuJiffies ⟨first.idleJiffies, first.callTime⟩ cpuCount
      second.idleJiffies).toNat =
      wholeIdle cpuCount.toNat (idleBetween first second) := by
  rw [idlePerCpuJiffies, UInt32.toNat_div, UInt64.toNat_toUInt32,
    UInt64.toNat_sub_of_le _ _ ordered]
  rfl

/-- The distance of the usage from the share of time that it stands for. -/
theorem usage_sub_share
    {cpus idle : R}
    {interval : R}
    (nonempty : 0 < cpus)
    (positive : 0 < interval)
    (whole : R) :
    (100 - whole) * interval - 100.0 * (1 - idle / (100.0 * cpus * interval)) =
      ((interval - 1) * (100.0 * interval - (interval + 1) * whole) +
        (idle / cpus - whole)) / interval := by
  have hundred : (100.0 : R) = 100 := by norm_num
  rw [hundred]
  field_simp
  ring

/-- Where the subtraction does not wrap, a usage is correct exactly when the
interval and the idle time agree. -/
theorem correctUsage_iff
    {cpus idle : Nat}
    {interval : R}
    (nonempty : 0 < cpus)
    (positive : 0 < interval)
    (unwrapped : wholeIdle cpus idle ≤ 100) :
    CorrectUsage cpus idle interval
        (((100 - wholeIdle cpus idle : Nat) : R) * interval) ↔
      Punctual cpus idle interval := by
  have cpusPositive : (0 : R) < cpus := by exact_mod_cast nonempty
  have used : ((100 - wholeIdle cpus idle : Nat) : R) =
      100 - wholeIdle cpus idle := by
    rw [Nat.cast_sub unwrapped]
    norm_num
  have agree :
      |((100 - wholeIdle cpus idle : Nat) : R) * interval -
          100.0 * (1 - idle / (100.0 * cpus * interval))| ≤ 1 / interval ↔
        |(interval - 1) *
            (100.0 * interval - (interval + 1) * wholeIdle cpus idle) +
          (idle / cpus - wholeIdle cpus idle)| ≤ 1 := by
    rw [used, usage_sub_share cpusPositive positive, abs_div,
      abs_of_pos positive, div_le_div_iff_of_pos_right positive]
  constructor
  · rintro ⟨-, atMost, near⟩
    refine ⟨unwrapped, fun few => ?_, agree.mp near⟩
    -- No processor was idle for a whole jiffy, and all of the 100 count.
    have vanishes : wholeIdle cpus idle = 0 :=
      Nat.div_eq_of_lt ((Nat.mod_le _ _).trans_lt few)
    rw [vanishes] at atMost
    norm_num at atMost
    linarith
  · rintro ⟨-, busy, balanced⟩
    have nonnegative :
        0 ≤ ((100 - wholeIdle cpus idle : Nat) : R) * interval :=
      mul_nonneg (Nat.cast_nonneg _) positive.le
    refine ⟨nonnegative, ?_, agree.mpr balanced⟩
    by_cases few : idle < cpus
    · have atMost : ((100 - wholeIdle cpus idle : Nat) : R) ≤ 100.0 := by
        rw [used]
        norm_num
      calc
        ((100 - wholeIdle cpus idle : Nat) : R) * interval ≤ 100.0 * 1 :=
          mul_le_mul atMost (busy few) positive.le (by norm_num)
        _ = 100.0 := mul_one _
    · have jiffy : 1 ≤ (idle : R) / cpus := by
        rw [le_div_iff₀ cpusPositive, one_mul]
        exact_mod_cast not_lt.mp few
      have upper := (abs_le.mp balanced).2
      rw [used]
      apply le_of_mul_le_mul_right _ positive
      norm_num at upper ⊢
      linarith

theorem usedPerCpuJiffies_toNat
    {idlePerCpuJiffies : UInt32}
    (unwrapped : idlePerCpuJiffies.toNat ≤ 100) :
    (jiffiesPerSecond - idlePerCpuJiffies).toNat =
      100 - idlePerCpuJiffies.toNat :=
  UInt32.toNat_sub_of_le _ _ (UInt32.le_iff_toNat_le.mpr unwrapped)

omit [LinearOrder R] [IsStrictOrderedRing R] in
/-- Every reading is remembered until the next. -/
theorem readCPUUsageData_remembers
    {node after : RPiMonitorNode}
    {cpuCount : UInt32}
    {idleJiffies : UInt64}
    {callTime : Int}
    {usageData : UsageData R}
    (read : node.readCPUUsageData cpuCount idleJiffies callTime =
      some (usageData, after)) :
    after = ⟨idleJiffies, callTime⟩ := by
  unfold readCPUUsageData at read
  rw [Option.bind_eq_bind, Option.bind_eq_some_iff] at read
  obtain ⟨_, -, returned⟩ := read
  exact (Prod.mk.inj (Option.some.inj returned)).2.symm

/-- What a reading after another returns. -/
theorem readCPUUsageData_second
    {node middle final : RPiMonitorNode}
    {cpuCount : UInt32}
    {first second : Reading}
    {earlier later : UsageData R}
    (consecutive : Consecutive R cpuCount first second)
    (readFirst :
      node.readCPUUsageData cpuCount first.idleJiffies first.callTime =
        some (earlier, middle))
    (readSecond :
      middle.readCPUUsageData cpuCount second.idleJiffies second.callTime =
        some (later, final)) :
    middle = ⟨first.idleJiffies, first.callTime⟩ ∧
      later.totalUsage =
        some
          (((jiffiesPerSecond -
              middle.idlePerCpuJiffies cpuCount second.idleJiffies).toNat : R) *
            secondsBetween first second) := by
  obtain rfl := readCPUUsageData_remembers readFirst
  refine ⟨rfl, ?_⟩
  have known : cpuCount ≠ 0 := by
    intro zero
    exact absurd consecutive.cpus (by simp [zero])
  unfold readCPUUsageData usagePercent at readSecond
  rw [if_pos consecutive.started, if_neg known, Option.bind_eq_bind,
    Option.bind_some] at readSecond
  rw [← (Prod.mk.inj (Option.some.inj readSecond)).1]
  dsimp only
  rw [div_mul_cancel₀ _ (by norm_num)]
  rfl

/-- The usage that the second of two readings reports is correct, and is
computed without wrapping: exactly when the readings are punctual. -/
theorem reported_usage_iff
    {node middle final : RPiMonitorNode}
    {cpuCount : UInt32}
    {first second : Reading}
    {earlier later : UsageData R}
    (consecutive : Consecutive R cpuCount first second)
    (readFirst :
      node.readCPUUsageData cpuCount first.idleJiffies first.callTime =
        some (earlier, middle))
    (readSecond :
      middle.readCPUUsageData cpuCount second.idleJiffies second.callTime =
        some (later, final)) :
    (middle.idlePerCpuJiffies cpuCount second.idleJiffies ≤ jiffiesPerSecond ∧
      ∃ usage, later.totalUsage = some usage ∧
        CorrectUsage cpuCount.toNat (idleBetween first second)
          (secondsBetween first second) usage) ↔
      Punctual cpuCount.toNat (idleBetween first second)
        (secondsBetween first second : R) := by
  obtain ⟨rfl, reported⟩ :=
    readCPUUsageData_second consecutive readFirst readSecond
  have whole := idlePerCpuJiffies_toNat consecutive.ordered cpuCount
  have unwraps :
      idlePerCpuJiffies ⟨first.idleJiffies, first.callTime⟩ cpuCount
          second.idleJiffies ≤ jiffiesPerSecond ↔
        wholeIdle cpuCount.toNat (idleBetween first second) ≤ 100 := by
    rw [UInt32.le_iff_toNat_le, whole]
    rfl
  rw [unwraps]
  constructor
  · rintro ⟨unwrapped, usage, same, correct⟩
    rw [reported, usedPerCpuJiffies_toNat (whole.trans_le unwrapped),
      whole] at same
    rw [← Option.some.inj same] at correct
    exact (correctUsage_iff consecutive.cpus consecutive.later unwrapped).mp
      correct
  · intro punctual
    refine ⟨punctual.unwrapped, _, reported, ?_⟩
    rw [usedPerCpuJiffies_toNat (whole.trans_le punctual.unwrapped), whole]
    exact (correctUsage_iff consecutive.cpus consecutive.later
      punctual.unwrapped).mpr punctual

/-- Readings one second apart are punctual. -/
theorem punctual_of_one_second
    {cpus idle : Nat}
    (nonempty : 0 < cpus)
    (short : idle < 2 ^ 32)
    (bounded : idle ≤ 100 * cpus) :
    Punctual cpus idle (1 : R) := by
  have positive : (0 : R) < cpus := by exact_mod_cast nonempty
  have whole : wholeIdle cpus idle = idle / cpus := by
    rw [wholeIdle, Nat.mod_eq_of_lt short]
  refine ⟨?_, fun _ => le_rfl, ?_⟩
  · rw [whole]
    exact Nat.div_le_of_le_mul (by rwa [mul_comm])
  · rw [whole, sub_self, zero_mul, zero_add, abs_le]
    have below : ((idle / cpus : Nat) : R) ≤ idle / cpus := Nat.cast_div_le
    have above : (idle : R) / cpus < (idle / cpus : Nat) + 1 := by
      rw [div_lt_iff₀ positive]
      exact_mod_cast Nat.lt_mul_of_div_lt (Nat.lt_succ_self _) nonempty
    constructor <;> linarith

/-- Four processors, idle for 2.5 s together within one second. -/
theorem reported_usage_one_second :
    CorrectUsage 4 250 (secondsBetween ⟨1000, 0⟩ ⟨1250, 1000000000⟩ : ℚ) 38 := by
  have consecutive : Consecutive ℚ 4 ⟨1000, 0⟩ ⟨1250, 1000000000⟩ :=
    ⟨by decide, by decide, by decide, by decide +kernel, by decide +kernel⟩
  have readFirst : (init 0).readCPUUsageData 4 1000 0 =
      some ((⟨true, some 0⟩ : UsageData ℚ), ⟨1000, 0⟩) := by
    decide +kernel
  have readSecond :
      (⟨1000, 0⟩ : RPiMonitorNode).readCPUUsageData 4 1250 1000000000 =
        some ((⟨true, some 38⟩ : UsageData ℚ), ⟨1250, 1000000000⟩) := by
    decide +kernel
  have one : (secondsBetween ⟨1000, 0⟩ ⟨1250, 1000000000⟩ : ℚ) = 1 := by
    decide +kernel
  have punctual : Punctual 4 250 (1 : ℚ) :=
    punctual_of_one_second (by decide) (by decide) (by decide)
  rw [← one] at punctual
  obtain ⟨-, usage, reported, correct⟩ :=
    (reported_usage_iff consecutive readFirst readSecond).mpr punctual
  rwa [Option.some.inj reported]

/-- Four processors, idle all the time, and the second reading a tenth of a
second late. -/
theorem late_reading_wraps :
    ¬∀ (node middle final : RPiMonitorNode) (cpuCount : UInt32)
      (first second : Reading) (earlier later : UsageData ℚ),
      Consecutive ℚ cpuCount first second →
      node.readCPUUsageData cpuCount first.idleJiffies first.callTime =
        some (earlier, middle) →
      middle.readCPUUsageData cpuCount second.idleJiffies second.callTime =
        some (later, final) →
      middle.idlePerCpuJiffies cpuCount second.idleJiffies ≤ jiffiesPerSecond ∧
        ∃ usage, later.totalUsage = some usage ∧
          CorrectUsage cpuCount.toNat (idleBetween first second)
            (secondsBetween first second) usage := by
  intro always
  have late :=
    always (init 0) ⟨1000, 0⟩ ⟨1440, 1100000000⟩ 4 ⟨1000, 0⟩ ⟨1440, 1100000000⟩
      ⟨true, some 0⟩ ⟨true, some ((2 ^ 32 - 10) * 1.1)⟩
      ⟨by decide, by decide, by decide, by decide +kernel, by decide +kernel⟩
      (by decide +kernel) (by decide +kernel)
  exact absurd late.1 (by decide)

/-! ## The usage of the memory -/

/-- A reading of `sysinfo` that makes sense. -/
structure Sound (memoryInfo : SysInfo) : Prop where
  free : memoryInfo.freeram ≤ memoryInfo.totalram
  total : 0 < memoryInfo.totalram.toNat
  unit : 0 < memoryInfo.memUnit.toNat
  fits : memoryInfo.totalram.toNat * memoryInfo.memUnit.toNat < 2 ^ 64

/-- The memory in use in percent. -/
def inUsePercent (memoryInfo : SysInfo) : R :=
  100.0 * (memoryInfo.totalram.toNat - memoryInfo.freeram.toNat) /
    memoryInfo.totalram.toNat

/-- At least so many percent of the memory are free. -/
def FreeFrom (percent : Nat) (memoryInfo : SysInfo) : Prop :=
  percent * memoryInfo.totalram.toNat ≤ 100 * memoryInfo.freeram.toNat

instance (percent : Nat) (memoryInfo : SysInfo) :
    Decidable (FreeFrom percent memoryInfo) :=
  inferInstanceAs (Decidable (_ ≤ _))

/-- What the node computes is the memory that is free. -/
theorem readMemoryUsageData_eq
    {memoryInfo : SysInfo}
    (sound : Sound memoryInfo) :
    (readMemoryUsageData memoryInfo : UsageData R) =
      { valuesRead := true
        totalUsage :=
          some (100.0 * memoryInfo.freeram.toNat /
            memoryInfo.totalram.toNat) } := by
  obtain ⟨free, total, unit, fits⟩ := sound
  have freeNat := UInt64.le_iff_toNat_le.mp free
  have wholly : (memoryInfo.totalram * memoryInfo.memUnit.toUInt64).toNat =
      memoryInfo.totalram.toNat * memoryInfo.memUnit.toNat := by
    rw [UInt64.toNat_mul, UInt32.toNat_toUInt64, Nat.mod_eq_of_lt fits]
  have used : ((memoryInfo.totalram - memoryInfo.freeram) *
      memoryInfo.memUnit.toUInt64).toNat =
      (memoryInfo.totalram.toNat - memoryInfo.freeram.toNat) *
        memoryInfo.memUnit.toNat := by
    rw [UInt64.toNat_mul, UInt32.toNat_toUInt64,
      UInt64.toNat_sub_of_le _ _ free, Nat.mod_eq_of_lt]
    exact (Nat.mul_le_mul_right _ (Nat.sub_le _ _)).trans_lt fits
  have remains : (memoryInfo.totalram * memoryInfo.memUnit.toUInt64 -
      (memoryInfo.totalram - memoryInfo.freeram) *
        memoryInfo.memUnit.toUInt64).toNat =
      memoryInfo.freeram.toNat * memoryInfo.memUnit.toNat := by
    rw [UInt64.toNat_sub_of_le, wholly, used, ← Nat.sub_mul,
      Nat.sub_sub_self freeNat]
    rw [UInt64.le_iff_toNat_le, wholly, used]
    exact Nat.mul_le_mul_right _ (Nat.sub_le _ _)
  have totalPositive : (0 : R) < memoryInfo.totalram.toNat := by
    exact_mod_cast total
  have unitPositive : (0 : R) < memoryInfo.memUnit.toNat := by
    exact_mod_cast unit
  have nonzero : ((memoryInfo.totalram.toNat * memoryInfo.memUnit.toNat : Nat) :
      R) ≠ 0 := by
    push_cast
    exact (mul_pos totalPositive unitPositive).ne'
  unfold readMemoryUsageData
  simp only [remains, wholly, Double.quotient, if_neg nonzero,
    Option.bind_eq_bind, Option.bind_some]
  push_cast
  rw [mul_div_mul_right _ _ unitPositive.ne', div_mul_eq_mul_div, mul_comm]

/-- A limit for the usage is a limit for the free memory. -/
theorem limit_le_iff
    {memoryInfo : SysInfo}
    (sound : Sound memoryInfo)
    (percent : Nat) :
    (100.0 * memoryInfo.freeram.toNat / memoryInfo.totalram.toNat : R) ≥
        percent ↔
      FreeFrom percent memoryInfo := by
  have totalPositive : (0 : R) < memoryInfo.totalram.toNat := by
    exact_mod_cast sound.total
  have hundred : (100.0 : R) = (100 : Nat) := by norm_num
  rw [ge_iff_le, le_div_iff₀ totalPositive, hundred]
  exact_mod_cast Iff.rfl

/-- The level of the report, by the free memory. -/
theorem checkMemoryUsage_eq
    {memoryInfo : SysInfo}
    (sound : Sound memoryInfo)
    {status : StatusWrapper R}
    (checked : checkMemoryUsage memoryInfo = some status) :
    status.values =
        [("RAM used",
          .percent (some (100.0 * memoryInfo.freeram.toNat /
            memoryInfo.totalram.toNat)))] ∧
      status.level =
        if FreeFrom 95 memoryInfo then StatusWrapper.error
        else if FreeFrom 80 memoryInfo then StatusWrapper.warn
        else StatusWrapper.ok := by
  have upper : (95.0 : R) = (95 : Nat) := by norm_num
  have lower : (80.0 : R) = (80 : Nat) := by norm_num
  unfold checkMemoryUsage at checked
  rw [readMemoryUsageData_eq sound, Option.bind_eq_bind,
    Option.bind_eq_some_iff] at checked
  obtain ⟨message, -, checked⟩ := checked
  rw [← Option.some.inj checked]
  refine ⟨rfl, ?_⟩
  simp only [usageLevel_some, upper, lower, limit_le_iff sound]

/-- The level is an error exactly from 95 percent in use. -/
def ErrorFromLimit (memoryInfo : SysInfo) (status : StatusWrapper R) : Prop :=
  status.level = StatusWrapper.error ↔ 95.0 ≤ (inUsePercent memoryInfo : R)

/-- The report tells the memory in use, raises an error exactly from 95 percent
of it, and does not rank higher than that for less free memory. -/
structure CorrectReport (memoryInfo : SysInfo)
    (status lessStatus : StatusWrapper R) : Prop where
  percentage : status.values =
    [("RAM used", .percent (some (inUsePercent memoryInfo)))]
  monotone : status.level ≤ lessStatus.level
  errorFromLimit : ErrorFromLimit memoryInfo status

/-- Two amounts of free memory lie on the same side of both limits. -/
def SameBand (first second : SysInfo) : Prop :=
  (FreeFrom 95 first ↔ FreeFrom 95 second) ∧
    (FreeFrom 80 first ↔ FreeFrom 80 second)

theorem percentage_iff
    {memoryInfo : SysInfo}
    (sound : Sound memoryInfo) :
    (100.0 * memoryInfo.freeram.toNat / memoryInfo.totalram.toNat : R) =
        inUsePercent memoryInfo ↔
      2 * memoryInfo.freeram.toNat = memoryInfo.totalram.toNat := by
  have totalPositive : (0 : R) < memoryInfo.totalram.toNat := by
    exact_mod_cast sound.total
  have hundred : (100.0 : R) ≠ 0 := by norm_num
  rw [inUsePercent, div_left_inj' totalPositive.ne', mul_right_inj' hundred,
    eq_sub_iff_add_eq, ← two_mul]
  exact_mod_cast Iff.rfl

theorem errorFromLimit_iff
    {memoryInfo : SysInfo}
    (sound : Sound memoryInfo)
    {status : StatusWrapper R}
    (checked : checkMemoryUsage memoryInfo = some status) :
    ErrorFromLimit memoryInfo status ↔
      5 * memoryInfo.totalram.toNat < 100 * memoryInfo.freeram.toNat ∧
        ¬FreeFrom 95 memoryInfo := by
  have totalPositive : (0 : R) < memoryInfo.totalram.toNat := by
    exact_mod_cast sound.total
  have total := sound.total
  have inUse : 95.0 ≤ (inUsePercent memoryInfo : R) ↔
      100 * memoryInfo.freeram.toNat ≤ 5 * memoryInfo.totalram.toNat := by
    rw [inUsePercent, le_div_iff₀ totalPositive]
    have natural : (95.0 : R) * memoryInfo.totalram.toNat ≤
        100.0 * (memoryInfo.totalram.toNat - memoryInfo.freeram.toNat) ↔
        (100 * memoryInfo.freeram.toNat : R) ≤
          5 * memoryInfo.totalram.toNat := by
      norm_num
      constructor <;> intro <;> linarith
    rw [natural]
    exact_mod_cast Iff.rfl
  have error : status.level = StatusWrapper.error ↔ FreeFrom 95 memoryInfo := by
    rw [(checkMemoryUsage_eq sound checked).2]
    split_ifs with most more
    · exact iff_of_true rfl most
    · exact iff_of_false (by decide) most
    · exact iff_of_false (by decide) most
  unfold ErrorFromLimit
  rw [error, inUse]
  unfold FreeFrom
  omega

theorem level_le_iff
    {memoryInfo : SysInfo}
    (sound : Sound memoryInfo)
    {less : UInt64}
    (fewer : less ≤ memoryInfo.freeram)
    {status lessStatus : StatusWrapper R}
    (checked : checkMemoryUsage memoryInfo = some status)
    (checkedLess :
      checkMemoryUsage { memoryInfo with freeram := less } = some lessStatus) :
    status.level ≤ lessStatus.level ↔
      SameBand memoryInfo { memoryInfo with freeram := less } := by
  have fewerNat := UInt64.le_iff_toNat_le.mp fewer
  have soundLess : Sound { memoryInfo with freeram := less } :=
    ⟨UInt64.le_trans fewer sound.free, sound.total, sound.unit, sound.fits⟩
  rw [(checkMemoryUsage_eq sound checked).2,
    (checkMemoryUsage_eq soundLess checkedLess).2]
  have still (percent : Nat) :
      FreeFrom percent { memoryInfo with freeram := less } →
        FreeFrom percent memoryInfo := by
    intro free
    exact free.trans (Nat.mul_le_mul_left 100 fewerNat)
  have upper := still 95
  have lower := still 80
  have ordered (info : SysInfo) : FreeFrom 95 info → FreeFrom 80 info := by
    unfold FreeFrom
    omega
  have here := ordered memoryInfo
  have there := ordered { memoryInfo with freeram := less }
  unfold SameBand StatusWrapper.error StatusWrapper.warn StatusWrapper.ok
  split_ifs <;> simp_all

/-- What the node reports as memory in use is correct, at this and at less free
memory: exactly when half of the memory is free.  It ranks less free memory no
lower exactly within one band of the limits, and it raises an error exactly
from 95 percent in use when more than 5 and less than 95 percent are free. -/
theorem memory_report_iff
    {memoryInfo : SysInfo}
    (sound : Sound memoryInfo)
    {less : UInt64}
    (fewer : less ≤ memoryInfo.freeram)
    {status lessStatus : StatusWrapper R}
    (checked : checkMemoryUsage memoryInfo = some status)
    (checkedLess :
      checkMemoryUsage { memoryInfo with freeram := less } = some lessStatus) :
    (CorrectReport memoryInfo status lessStatus ↔
        2 * memoryInfo.freeram.toNat = memoryInfo.totalram.toNat) ∧
      (status.level ≤ lessStatus.level ↔
        SameBand memoryInfo { memoryInfo with freeram := less }) ∧
      (ErrorFromLimit memoryInfo status ↔
        5 * memoryInfo.totalram.toNat < 100 * memoryInfo.freeram.toNat ∧
          ¬FreeFrom 95 memoryInfo) := by
  have monotone := level_le_iff sound fewer checked checkedLess
  have errors := errorFromLimit_iff sound checked
  have values := (checkMemoryUsage_eq sound checked).1
  refine ⟨?_, monotone, errors⟩
  constructor
  · intro correct
    have same := correct.percentage
    rw [values] at same
    simp only [List.cons.injEq, Prod.mk.injEq, StatusValue.percent.injEq,
      Option.some.injEq, true_and, and_true] at same
    exact (percentage_iff sound).mp same
  · intro half
    have total := sound.total
    have fewerNat := UInt64.le_iff_toNat_le.mp fewer
    refine ⟨?_, monotone.mpr ?_, errors.mpr ?_⟩
    · rw [values, (percentage_iff sound).mpr half]
    · unfold SameBand FreeFrom
      dsimp only
      omega
    · unfold FreeFrom
      omega

/-- A computer of which half the memory is free. -/
def halfFree : SysInfo where
  totalram := 4000000
  freeram := 2000000
  memUnit := 1024

theorem memory_report_halfFree :
    CorrectReport halfFree
      ({ level := 0, message := "OK",
         values := [("RAM used", .percent (some 50))] } : StatusWrapper ℚ)
      { level := 0, message := "OK",
        values := [("RAM used", .percent (some 25))] } := by
  have sound : Sound halfFree :=
    ⟨by decide, by decide, by decide, by decide⟩
  have fewer : 1000000 ≤ halfFree.freeram := by decide
  exact ((memory_report_iff sound fewer (by decide +kernel)
    (by decide +kernel)).1).mpr (by decide)

/-- With a tenth of the memory in use, the report says 90 percent. -/
theorem free_reported_as_used :
    ¬∀ (memoryInfo : SysInfo) (less : UInt64)
      (status lessStatus : StatusWrapper ℚ),
      Sound memoryInfo → less ≤ memoryInfo.freeram →
      checkMemoryUsage memoryInfo = some status →
      checkMemoryUsage { memoryInfo with freeram := less } =
        some lessStatus →
      CorrectReport memoryInfo status lessStatus := by
  intro always
  have report :=
    always { totalram := 4000000, freeram := 3600000, memUnit := 1024 } 400000
      { level := 1, message := "high load",
        values := [("RAM used", .percent (some 90))] }
      { level := 0, message := "OK",
        values := [("RAM used", .percent (some 10))] }
      ⟨by decide, by decide, by decide, by decide⟩ (by decide)
      (by decide +kernel) (by decide +kernel)
  exact absurd report.monotone (by decide)

end RPiMonitorNode
end Skatebot
