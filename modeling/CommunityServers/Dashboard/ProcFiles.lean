import CommunityServers.Dashboard.Metrics

/-!
Contract: the sampler on files as a kernel writes them.

Owns:
- the first line of `/proc/stat` and the lines of `/proc/net/dev`, written from
  the counters they show with any padding;
- that the sampler reads these counters back;
- exactly which runs over such files compute true differences, in terms of the
  counters themselves.

Does not own: other lines of `/proc/stat`, the header lines of `/proc/net/dev`,
and counters that nothing reads.
-/

set_option autoImplicit false

namespace CommunityServers.Dashboard

open CommunityServers.Foundation

/-! ### What is written -/

/-- A counter in its column: so many spaces more than the one that separates it. -/
structure Column where
  padding : Nat
  value : UInt64

def Column.text (column : Column) : Bytes :=
  List.replicate (column.padding + 1) 32 ++ formatUint column.value.toNat

def columnsText (columns : List Column) : Bytes := columns.flatMap Column.text

/-- A network interface; its name can stand before the `:` of its line. -/
structure Interface where
  indent : Nat
  name : Bytes
  counters : List Column
  named : name ≠ []
  plain : ∀ byte ∈ name, isPlain byte = true ∧ byte ≠ 58
  enough : 9 ≤ counters.length

def Interface.line (device : Interface) : Bytes :=
  (List.replicate device.indent 32 ++ device.name) ++ 58 :: columnsText device.counters

def Interface.row (device : Interface) : InterfaceRow :=
  let values := device.counters.map Column.value
  ⟨device.name, values.getD 0 0, values.getD 8 0⟩

/-- What a running machine shows at one time. The header lines of `/proc/net/dev`
have no `:`, and `/proc/stat` has any other lines. -/
structure KernelSample where
  times : List Column
  interfaces : List Interface
  header : List Bytes
  otherLines : Bytes
  memInfo : Option Bytes
  now : Int
  enough : 7 ≤ times.length
  headerLines : ∀ line ∈ header, 10 ∉ line ∧ 58 ∉ line

namespace KernelSample

def stat (machine : KernelSample) : Bytes :=
  (ascii "cpu" ++ columnsText machine.times) ++ 10 :: machine.otherLines

def netDev (machine : KernelSample) : Bytes :=
  [10].intercalate (machine.header ++ machine.interfaces.map Interface.line ++ [[]])

def reading (machine : KernelSample) : Reading :=
  ⟨some machine.stat, some machine.netDev, machine.memInfo, machine.now⟩

/-- The counters of the processor. -/
def counters (machine : KernelSample) : List UInt64 := machine.times.map Column.value

/-- The rows of every interface but the loopback. -/
def rows (machine : KernelSample) : List InterfaceRow :=
  (machine.interfaces.filter fun device => device.name ≠ ascii "lo").map Interface.row

/-- The bytes received and sent by every interface but the loopback. -/
def bytes (machine : KernelSample) : Nat :=
  (machine.rows.map fun row => row.rx.toNat + row.tx.toNat).sum

end KernelSample

/-! ### Words of a line -/

/-- The words of columns when every space separates two. -/
def columnWords (columns : List Column) : List Bytes :=
  columns.flatMap fun column =>
    List.replicate column.padding [] ++ [formatUint column.value.toNat]

theorem columnsText_eq (columns : List Column) :
    columnsText columns = (columnWords columns).flatMap fun word => 32 :: word := by
  have spaces (count : Nat) (word : Bytes) :
      (List.replicate count ([] : Bytes) ++ [word]).flatMap (fun word => 32 :: word) =
        List.replicate (count + 1) 32 ++ word := by
    induction count with
    | zero => simp
    | succ count inductionHypothesis =>
        rw [List.replicate_succ, List.cons_append, List.flatMap_cons, inductionHypothesis]
        rfl
  induction columns with
  | nil => rfl
  | cons column rest inductionHypothesis =>
      have first : columnWords (column :: rest) =
          List.replicate column.padding [] ++ [formatUint column.value.toNat] ++
            columnWords rest := List.flatMap_cons
      rw [columnsText, List.flatMap_cons, ← columnsText, inductionHypothesis, first,
        List.flatMap_append, spaces]
      rfl

theorem columnWords_plain (columns : List Column) :
    ∀ word ∈ columnWords columns, ∀ byte ∈ word, isPlain byte = true := by
  intro word member byte inWord
  obtain ⟨column, -, isWord⟩ := List.mem_flatMap.mp member
  rcases List.mem_append.mp isWord with empty | digits
  · rw [List.eq_of_mem_replicate empty] at inWord
    cases inWord
  · rw [List.mem_singleton.mp digits] at inWord
    exact isPlain_of_isDigit (formatUint_isDigit column.value.toNat byte inWord)

theorem columnWords_nonempty (columns : List Column) :
    (columnWords columns).filter (fun word => word ≠ []) =
      columns.map fun column => formatUint column.value.toNat := by
  induction columns with
  | nil => rfl
  | cons column rest inductionHypothesis =>
      have empty : (List.replicate column.padding ([] : Bytes)).filter (fun word => word ≠ []) =
          [] := List.filter_replicate_of_neg (by simp)
      have digits : [formatUint column.value.toNat].filter (fun word => word ≠ []) =
          [formatUint column.value.toNat] :=
        List.filter_cons_of_pos (decide_eq_true (formatUint_ne_nil column.value.toNat))
      rw [columnWords, List.flatMap_cons, ← columnWords, List.filter_append, List.filter_append,
        empty, digits, inductionHypothesis]
      rfl

/-- A plain word and columns after it, whatever their padding. -/
theorem fields_columns {word : Bytes} (plain : ∀ byte ∈ word, isPlain byte = true)
    (columns : List Column) :
    fields (word ++ columnsText columns) = [word].filter (fun word => word ≠ []) ++
      columns.map fun column => formatUint column.value.toNat := by
  rw [columnsText_eq, fields_spaced plain (columnWords_plain columns), ← columnWords_nonempty,
    ← List.filter_append]
  rfl

theorem counter_formatUint (value : UInt64) : counter (formatUint value.toNat) = value := by
  rw [counter, uintValue_formatUint value.toNat_lt, UInt64.ofNat_toNat]

theorem map_counter_columns (columns : List Column) :
    (columns.map fun column => formatUint column.value.toNat).map counter =
      columns.map Column.value := by
  rw [List.map_map]
  exact List.map_congr_left fun column _ => counter_formatUint column.value

theorem notMem_columnsText {byte : UInt8} (columns : List Column) (other : isDigit byte = false)
    (notSpace : byte ≠ 32) : byte ∉ columnsText columns := by
  intro member
  obtain ⟨column, -, inColumn⟩ := List.mem_flatMap.mp member
  rcases List.mem_append.mp inColumn with space | digit
  · exact notSpace (List.eq_of_mem_replicate space)
  · exact notMem_formatUint column.value.toNat other digit

/-! ### Reading back -/

theorem cpuCounters_stat (machine : KernelSample) :
    cpuCounters (some machine.stat) = some machine.counters := by
  have plainWord : ∀ byte ∈ ascii "cpu", isPlain byte = true := by
    rw [← List.all_eq_true]
    decide
  have oneLine : 10 ∉ ascii "cpu" ++ columnsText machine.times := by
    rw [List.mem_append, not_or]
    exact ⟨by decide, notMem_columnsText _ (by decide) (by decide)⟩
  have words : fields (ascii "cpu" ++ columnsText machine.times) =
      ascii "cpu" :: machine.times.map fun column => formatUint column.value.toNat :=
    fields_columns plainWord machine.times
  have wellFormed : ¬ ((ascii "cpu" ::
        machine.times.map fun column => formatUint column.value.toNat).length < 8 ∨
      (ascii "cpu" :: machine.times.map fun column => formatUint column.value.toNat).head? ≠
        some (ascii "cpu")) := by
    have enough := machine.enough
    simp only [List.length_cons, List.length_map, List.head?_cons, ne_eq, not_true, or_false]
    omega
  rw [cpuCounters, Option.bind_some, KernelSample.stat]
  dsimp only
  rw [cut_append oneLine, words, if_neg wellFormed, List.drop_one, List.tail_cons,
    map_counter_columns]
  rfl

theorem trimSpace_indented (count : Nat) {name : Bytes}
    (plain : ∀ byte ∈ name, isPlain byte = true) :
    trimSpace (List.replicate count 32 ++ name) = name := by
  induction count with
  | zero => exact trimSpace_of_plain plain
  | succ count inductionHypothesis =>
      rw [List.replicate_succ, List.cons_append, trimSpace_cons_space, inductionHypothesis]

theorem interfaceRow_line (device : Interface) :
    interfaceRow device.line =
      if device.name = ascii "lo" then none else some device.row := by
  have beforeColon : 58 ∉ List.replicate device.indent 32 ++ device.name := by
    rw [List.mem_append, not_or]
    exact ⟨fun space => absurd (List.eq_of_mem_replicate space) (by decide),
      fun member => (device.plain 58 member).2 rfl⟩
  have name := trimSpace_indented device.indent fun byte member => (device.plain byte member).1
  have words : fields (columnsText device.counters) =
      device.counters.map fun column => formatUint column.value.toNat :=
    fields_columns (fun _ member => absurd member List.not_mem_nil : ∀ byte ∈ ([] : Bytes), _)
      device.counters
  have reads (index : Nat) (inside : index < device.counters.length) :
      counter ((device.counters.map fun column => formatUint column.value.toNat).getD index []) =
        (device.counters.map Column.value).getD index 0 := by
    rw [List.getD_eq_getElem _ _ (by simpa using inside),
      List.getD_eq_getElem _ _ (by simpa using inside), List.getElem_map, List.getElem_map,
      counter_formatUint]
  have enough := device.enough
  unfold interfaceRow Interface.line
  rw [if_pos (by simp), cut_append beforeColon]
  dsimp only
  rw [name, words, List.length_map, if_neg (by omega : ¬ _ < 9), reads 0 (by omega),
    reads 8 (by omega)]
  by_cases loopback : device.name = ascii "lo"
  · rw [if_pos (Or.inl loopback), if_pos loopback]
  · rw [if_neg (by simp [loopback, device.named]), if_neg loopback]
    rfl

theorem line_noNewline (device : Interface) : 10 ∉ device.line := by
  simp only [Interface.line, List.mem_append, List.mem_cons, not_or]
  refine ⟨⟨?_, ?_⟩, by decide, notMem_columnsText _ (by decide) (by decide)⟩
  · exact fun space => absurd (List.eq_of_mem_replicate space) (by decide)
  · exact fun member => absurd (device.plain 10 member).1 (by decide)

theorem interfaceRows_netDev (machine : KernelSample) :
    interfaceRows (some machine.netDev) = machine.rows := by
  have lines : machine.netDev.splitOn 10 =
      machine.header ++ machine.interfaces.map Interface.line ++ [[]] := by
    apply List.splitOn_intercalate
    · intro line member
      simp only [List.mem_append, List.mem_map, List.mem_singleton] at member
      rcases member with (inHeader | ⟨device, -, rfl⟩) | rfl
      · exact (machine.headerLines line inHeader).1
      · exact line_noNewline device
      · simp
    · simp
  have fromHeader : machine.header.filterMap interfaceRow = [] := by
    rw [List.filterMap_eq_nil_iff]
    intro line member
    exact if_neg (machine.headerLines line member).2
  have fromDevices : (machine.interfaces.map Interface.line).filterMap interfaceRow =
      machine.rows := by
    unfold KernelSample.rows
    induction machine.interfaces with
    | nil => rfl
    | cons device rest inductionHypothesis =>
        rw [List.map_cons]
        by_cases loopback : device.name = ascii "lo"
        · rw [List.filterMap_cons_none (by rw [interfaceRow_line, if_pos loopback]),
            List.filter_cons_of_neg (by simp [loopback]), inductionHypothesis]
        · rw [List.filterMap_cons_some (by rw [interfaceRow_line, if_neg loopback]),
            List.filter_cons_of_pos (by simp [loopback]), List.map_cons, inductionHypothesis]
  rw [interfaceRows, lines, List.filterMap_append, List.filterMap_append, fromHeader, fromDevices]
  simp [interfaceRow]

/-! ### Runs -/

/-- The counters of a machine add up in 64 bits. -/
def KernelSample.Fits (machine : KernelSample) : Prop :=
  trueSum machine.counters < 2 ^ 64 ∧ machine.bytes < 2 ^ 64

/-- Where the time of all processors grows, neither its idle nor its busy part goes
back, and where the clock goes forward, the bytes of all interfaces do not go back. -/
def KernelSteady (older newer : KernelSample) : Prop :=
  (0 < trueSum older.counters → trueSum older.counters < trueSum newer.counters →
    idleTime older.counters ≤ idleTime newer.counters ∧
      busyTime older.counters ≤ busyTime newer.counters) ∧
    (older.now < newer.now → older.bytes ≤ newer.bytes)

theorem listedBytes_netDev (machine : KernelSample) :
    listedBytes (some machine.netDev) = machine.bytes := by
  rw [listedBytes, interfaceRows_netDev]
  rfl

theorem KernelSample.Fits.reading {machine : KernelSample} (fits : machine.Fits) :
    machine.reading.Fits := by
  refine ⟨fun counters read => ?_, ?_⟩
  · rw [KernelSample.reading, cpuCounters_stat] at read
    obtain rfl := Option.some.inj read
    exact fits.1
  · rw [KernelSample.reading, listedBytes_netDev]
    exact fits.2

theorem steady_reading_iff {older newer : KernelSample} (olderFits : older.Fits)
    (newerFits : newer.Fits) :
    Steady older.reading newer.reading ↔ KernelSteady older newer := by
  rw [steady_iff]
  dsimp only [KernelSample.reading]
  rw [cpuCounters_stat, cpuCounters_stat, listedBytes_netDev, listedBytes_netDev]
  simp only [Option.mem_def, Option.some.injEq, forall_eq', olderFits.1, newerFits.1,
    newerFits.2, and_true, true_and]
  rfl

/-- **Kernel files.** Over files that show a machine's counters, each padded in any
way, every iteration computes true differences however its operations round exactly
when the counters of neighbouring samples are steady. -/
theorem kernelRun_trueDifferences_iff {samples : List KernelSample}
    (fits : ∀ machine ∈ samples, machine.Fits) :
    (∀ r : Rounding, RunsTrue r (samples.map KernelSample.reading)) ↔
      samples.IsChain KernelSteady := by
  have readingsFit : ∀ reading ∈ samples.map KernelSample.reading, reading.Fits := by
    intro reading member
    obtain ⟨machine, isSample, rfl⟩ := List.mem_map.mp member
    exact (fits machine isSample).reading
  have steady : (samples.map KernelSample.reading).IsChain Steady ↔
      samples.IsChain KernelSteady := by
    rw [List.isChain_map]
    exact List.IsChain.iff_of_mem_imp fun older newer olderIn newerIn =>
      steady_reading_iff (fits older olderIn) (fits newer newerIn)
  rw [← steady]
  constructor
  · intro every
    exact (runsTrue_iff_steady readingsFit).mp (every Rounding.identity)
  · exact fun chain r => runsTrue_of_steady r chain

/-- A machine with these seven times and no interface. -/
def sampleMachine (times : Vector UInt64 7) (now : Int) : KernelSample where
  times := times.toList.map (Column.mk 0)
  interfaces := []
  header := []
  otherLines := []
  memInfo := none
  now := now
  enough := by simp
  headerLines := by simp

/-- The time spent waiting for devices goes back while the total grows. -/
theorem kernelRun_iowait_drops :
    ¬ ∀ r : Rounding, RunsTrue r
      ([sampleMachine #v[1000, 0, 500, 8000, 400, 0, 0] 0,
        sampleMachine #v[1300, 0, 500, 8100, 250, 0, 0] 3000000000].map
          KernelSample.reading) := by
  rw [kernelRun_trueDifferences_iff (by unfold KernelSample.Fits; decide)]
  unfold KernelSteady
  decide

end CommunityServers.Dashboard
