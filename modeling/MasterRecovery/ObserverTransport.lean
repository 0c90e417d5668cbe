import MasterRecovery.Types
import MasterRecovery.Lib.Draws
import Mathlib.Data.List.Sort

/-!
# The simulated transport (gp-transport/src/lib.rs)

What an observer of the mix network sees of some messages. In the strong mode everything travels in
cells: the packets are those of a number of cells, whatever the cells hold and whether they hold
anything.

Machine words are 64 bits wide. A build either checks its arithmetic, and then an overflow stops the
run, or wraps around.
-/

namespace MasterRecovery

inductive MetadataMode
  | off
  | basic
  | strong
  deriving DecidableEq

structure TransportConfig where
  mode : MetadataMode
  baseLatencyMs : UInt64
  epochMs : UInt64
  coverRate : UInt16
  hops : UInt8
  cellSize : UInt64
  lossPercent : UInt8
  duplicatePercent : UInt8
  mixDropPercent : UInt8

def TransportConfig.forMode : MetadataMode → TransportConfig
  | .off => ⟨.off, 10, 0, 0, 1, 0, 0, 0, 0⟩
  | .basic => ⟨.basic, 80, 0, 0, 3, 0, 0, 0, 0⟩
  | .strong => ⟨.strong, 120, 250, 3, 3, 2048, 0, 0, 0⟩

structure ObserverPacket where
  timestampMs : UInt64
  sizeBucket : UInt64
  previousHop : String
  nextHop : String
  outerFormat : String
  epoch : UInt64
  mailboxTag : String
  deriving DecidableEq

structure ObserverSummary where
  mode : MetadataMode
  realPacketsKernelOnly : ℕ
  totalObservedPackets : ℕ
  attemptedPackets : ℕ
  droppedPackets : ℕ
  duplicatedPackets : ℕ
  coverPackets : ℕ
  fixedOuterFormat : Bool
  triviallyIsolatable : Bool
  remainingLeakage : String
  packets : List ObserverPacket
  deriving DecidableEq

/-- A packet, and whether it belongs to a message. -/
structure KernelPacket where
  visible : ObserverPacket
  isReal : Bool

/-- The generator: how it starts, and what it draws of each kind. -/
structure Rng (ρ : Type) where
  seedFromU64 : UInt64 → ρ
  randomU16 : ρ → UInt16 × ρ
  /-- `random_range(0..100)` -/
  randomPercent : ρ → UInt8 × ρ
  /-- `random_range(low..=high)` -/
  randomRange : UInt64 → UInt64 → ρ → UInt64 × ρ

/-! ### Machine words -/

section Words

variable (checks : Bool)

def addU64 (x y : UInt64) : Option UInt64 :=
  if checks = true ∧ 2 ^ 64 ≤ x.toNat + y.toNat then none else some (x + y)

def mulU64 (x y : UInt64) : Option UInt64 :=
  if checks = true ∧ 2 ^ 64 ≤ x.toNat * y.toNat then none else some (x * y)

/-- A division by zero stops every build. -/
def divCeil (x y : UInt64) : Option UInt64 :=
  if y = 0 then none else some (UInt64.ofNat ((x.toNat + y.toNat - 1) / y.toNat))

/-- Where the power does not fit it wraps around to zero. -/
def nextPowerOfTwo (x : UInt64) : Option UInt64 :=
  if x.toNat.nextPowerOfTwo < 2 ^ 64 then some (UInt64.ofNat x.toNat.nextPowerOfTwo)
  else if checks then none else some 0

end Words

/-- `{:0width x}` -/
def paddedHex (width n : ℕ) : String :=
  let digits := Nat.toDigits 16 n
  String.ofList (List.replicate (width - digits.length) '0' ++ digits)

section Simulation

variable {ρ : Type} (rng : Rng ρ) (checks : Bool) (config : TransportConfig)

/-! ### Routes -/

def hopTimestamp (base epochStart jitter : UInt64) (hop : ℕ) : Option UInt64 :=
  if config.mode = .strong then do
    let start ← addU64 checks epochStart jitter
    addU64 checks start (UInt64.ofNat hop * 7)
  else do
    let start ← addU64 checks base jitter
    let offset ← mulU64 checks (UInt64.ofNat hop) config.baseLatencyMs
    addU64 checks start offset

def sizeBucket (payloadSize : UInt64) : Option UInt64 :=
  if config.mode = .strong then some config.cellSize
  else if payloadSize ≤ 1024 then some 1024
  else nextPowerOfTwo checks payloadSize

/-- What is seen of one hop. -/
def hopPacket (base epoch epochStart payloadSize : UInt64) (hops hop : ℕ) :
    Draw ρ ObserverPacket := do
  let tag ← Draw.next rng.randomU16
  let jitter ← (if config.mode = .off then pure 0
    else Draw.next (rng.randomRange 5 (max config.baseLatencyMs 5)))
  let timestampMs ← Draw.ofOption (hopTimestamp checks config base epochStart jitter hop)
  let bucket ← Draw.ofOption (sizeBucket checks config payloadSize)
  pure {
    timestampMs := timestampMs
    sizeBucket := bucket
    previousHop := if hop = 0 then "opaque-client" else "mix-" ++ toString hop
    nextHop := if hop + 1 = hops then "opaque-mailbox" else "mix-" ++ toString (hop + 1)
    outerFormat := if config.mode = .strong then "gp-cell/v1" else "encrypted-envelope"
    epoch := epoch
    mailboxTag := "mbx-" ++ paddedHex 4 epoch.toNat ++ "-" ++ paddedHex 2 hop ++ "-" ++
      paddedHex 4 tag.toNat }

/-- The start of the message, its epoch, and the start of that. -/
def routeTimes (sequence : UInt64) : Option (UInt64 × UInt64 × UInt64) := do
  let base ← mulU64 checks sequence config.baseLatencyMs
  let epoch ← if config.epochMs = 0 then some 0 else divCeil base config.epochMs
  let epochStart ← mulU64 checks epoch config.epochMs
  some (base, epoch, epochStart)

/-- The packets of one message, in the order they are pushed. -/
def appendRoute (sequence : UInt64) (isReal : Bool) (payloadSize : UInt64) :
    Draw ρ (List KernelPacket) := do
  let hops := (max config.hops 1).toNat
  let (base, epoch, epochStart) ← Draw.ofOption (routeTimes checks config sequence)
  Draw.collect (fun hop => (fun visible => ⟨visible, isReal⟩) <$>
    hopPacket rng checks config base epoch epochStart payloadSize hops hop) (List.range hops)

/-! ### The network -/

/-- One draw against a percentage. -/
def happens (percent : UInt8) : Draw ρ Bool := do
  let drawn ← Draw.next rng.randomPercent
  pure (drawn < min percent 100)

/-- A mix is asked about only where the packet touches one. -/
def survives (packet : ObserverPacket) : Draw ρ Bool := do
  let networkDrop ← happens rng config.lossPercent
  let touchesMix := "mix-".isPrefixOf packet.previousHop || "mix-".isPrefixOf packet.nextHop
  let mixDrop ← (if touchesMix then happens rng config.mixDropPercent else pure false)
  pure (!networkDrop && !mixDrop)

/-- The second copy of a packet. -/
def ObserverPacket.repeated (packet : ObserverPacket) : ObserverPacket :=
  { packet with timestampMs := saturatingAdd packet.timestampMs 1 }

def KernelPacket.repeated (packet : KernelPacket) : KernelPacket :=
  { packet with visible := packet.visible.repeated }

def remainingLeakage : MetadataMode → String
  | .off => "Endpoints, timing, volume, and approximate payload size are visible."
  | .basic => "A global observer still sees timing, volume, and variable packet sizes."
  | .strong => "Timing, total volume, adjacent hops, size bucket, and endpoint participation " ++
      "remain visible."

/-- Cells that messages need, or the messages themselves. -/
def realCells (realMessages payloadSize : UInt64) : Option UInt64 :=
  if config.mode = .strong then do
    let cells ← divCeil payloadSize config.cellSize
    mulU64 checks (max cells 1) realMessages
  else some realMessages

def coverMessages : ℕ := if config.mode = .strong then config.coverRate.toNat * 12 else 0

/-- What happens after the number of cells is known. -/
def simulateCells (cells payloadSize : UInt64) : Draw ρ ObserverSummary := do
  let real ← Draw.collect (fun message =>
    appendRoute rng checks config (UInt64.ofNat message) true payloadSize)
      (List.range cells.toNat)
  let cover ← Draw.collect (fun message => do
    let sequence ← Draw.ofOption (addU64 checks cells (UInt64.ofNat message))
    appendRoute rng checks config sequence false config.cellSize)
      (List.range (coverMessages config))
  let attempted := real.flatten ++ cover.flatten
  let kept ← Draw.retain (fun packet => survives rng config packet.visible) attempted
  let duplicated ← Draw.retain (fun _ => happens rng config.duplicatePercent) kept
  let packets := (kept ++ duplicated.map KernelPacket.repeated).insertionSort
    fun a b => a.visible.timestampMs ≤ b.visible.timestampMs
  let realCount := packets.countP (·.isReal)
  pure {
    mode := config.mode
    realPacketsKernelOnly := realCount
    totalObservedPackets := packets.length
    attemptedPackets := attempted.length
    droppedPackets := attempted.length - kept.length
    duplicatedPackets := duplicated.length
    coverPackets := packets.length - realCount
    fixedOuterFormat := config.mode = .strong
    triviallyIsolatable := config.mode = .off
    remainingLeakage := remainingLeakage config.mode
    packets := packets.map (·.visible) }

/-- Without a result the run has stopped on a division by zero or a checked overflow. -/
def simulateObserver (seed realMessages payloadSize : UInt64) : Option ObserverSummary := do
  let cells ← realCells checks config realMessages payloadSize
  let (summary, _) ← simulateCells rng checks config cells payloadSize (rng.seedFromU64 seed)
  some summary

/-! ### Cells

What there is to see in the strong mode, of a number of cells and nothing else. -/

/-- The packets of one cell. -/
def cellRoute (sequence : UInt64) : Draw ρ (List ObserverPacket) := do
  let hops := (max config.hops 1).toNat
  let (base, epoch, epochStart) ← Draw.ofOption (routeTimes checks config sequence)
  Draw.collect (hopPacket rng checks config base epoch epochStart config.cellSize hops)
    (List.range hops)

def cellPackets (cells : UInt64) : Draw ρ (List ObserverPacket) := do
  let real ← Draw.collect (fun cell => cellRoute rng checks config (UInt64.ofNat cell))
    (List.range cells.toNat)
  let cover ← Draw.collect (fun cell => do
    let sequence ← Draw.ofOption (addU64 checks cells (UInt64.ofNat cell))
    cellRoute rng checks config sequence) (List.range (coverMessages config))
  let kept ← Draw.retain (survives rng config) (real.flatten ++ cover.flatten)
  let duplicated ← Draw.retain (fun _ => happens rng config.duplicatePercent) kept
  pure ((kept ++ duplicated.map ObserverPacket.repeated).insertionSort
    fun a b => a.timestampMs ≤ b.timestampMs)

end Simulation

section Strong

variable {ρ : Type} {rng : Rng ρ} {checks : Bool} {config : TransportConfig}
  {sequence cells payloadSize : UInt64} {isReal : Bool}

/-- The size of what a cell holds makes no difference to its packets. -/
theorem hopPacket_strong (hstrong : config.mode = .strong)
    (base epoch epochStart payloadSize payloadSize' : UInt64) (hops hop : ℕ) :
    hopPacket rng checks config base epoch epochStart payloadSize hops hop =
      hopPacket rng checks config base epoch epochStart payloadSize' hops hop := by
  simp only [hopPacket, sizeBucket, hstrong, if_true]

theorem appendRoute_visible (hstrong : config.mode = .strong) :
    List.map KernelPacket.visible <$> appendRoute rng checks config sequence isReal payloadSize =
      cellRoute rng checks config sequence := by
  simp only [appendRoute, cellRoute, map_bind]
  refine bind_congr fun times => ?_
  rw [Draw.collect_map, Functor.map_map]
  simp only [List.map_map]
  rw [Draw.collect_congr fun hop _ => hopPacket_strong hstrong times.1 times.2.1 times.2.2
    payloadSize config.cellSize _ hop]
  have hvisible : KernelPacket.visible ∘ (fun visible => ⟨visible, isReal⟩) = id := rfl
  simp only [hvisible, List.map_id, id_map']

/-- Sorting, and the copies, look at what is visible only. -/
theorem sorted_visible (kept duplicated : List KernelPacket) :
    ((kept ++ duplicated.map KernelPacket.repeated).insertionSort
        fun a b => a.visible.timestampMs ≤ b.visible.timestampMs).map KernelPacket.visible =
      (kept.map KernelPacket.visible ++
          (duplicated.map KernelPacket.visible).map ObserverPacket.repeated).insertionSort
        fun a b => a.timestampMs ≤ b.timestampMs := by
  rw [List.map_insertionSort _ (fun a b : ObserverPacket => a.timestampMs ≤ b.timestampMs)
    KernelPacket.visible _ fun a _ b _ => Iff.rfl]
  rw [List.map_append, List.map_map, List.map_map]
  rfl

/-- The packets of a run in the strong mode are those of its cells. -/
theorem simulateCells_visible (hstrong : config.mode = .strong) :
    ObserverSummary.packets <$> simulateCells rng checks config cells payloadSize =
      cellPackets rng checks config cells := by
  have hreal : Draw.collect (fun cell => cellRoute rng checks config (UInt64.ofNat cell))
      (List.range cells.toNat) =
        List.map (List.map KernelPacket.visible) <$> Draw.collect (fun message =>
          appendRoute rng checks config (UInt64.ofNat message) true payloadSize)
            (List.range cells.toNat) := by
    rw [← Draw.collect_map]
    simp only [appendRoute_visible hstrong]
  have hcover : Draw.collect (fun cell => do
        let sequence ← Draw.ofOption (addU64 checks cells (UInt64.ofNat cell))
        cellRoute rng checks config sequence) (List.range (coverMessages config)) =
      List.map (List.map KernelPacket.visible) <$> Draw.collect (fun message => do
        let sequence ← Draw.ofOption (addU64 checks cells (UInt64.ofNat message))
        appendRoute rng checks config sequence false config.cellSize)
          (List.range (coverMessages config)) := by
    rw [← Draw.collect_map]
    simp only [map_bind, appendRoute_visible hstrong]
  simp only [simulateCells, cellPackets, hreal, hcover, map_bind, bind_map_left, map_pure]
  refine bind_congr fun real => bind_congr fun cover => ?_
  rw [← List.map_flatten, ← List.map_flatten, ← List.map_append, ← Draw.retain_map, bind_map_left]
  refine bind_congr fun kept => ?_
  rw [← Draw.retain_map (fun _ => happens rng config.duplicatePercent), bind_map_left]
  exact bind_congr fun duplicated => congrArg pure (sorted_visible kept duplicated)

theorem toNat_max (x y : UInt64) : (max x y).toNat = max x.toNat y.toNat := by
  change (if x ≤ y then y else x).toNat = _
  rw [Nat.max_def]
  simp only [UInt64.le_iff_toNat_le]
  split <;> rfl

/-- How many cells the messages need. -/
def cellCount (config : TransportConfig) (realMessages payloadSize : UInt64) : ℕ :=
  max 1 ((payloadSize.toNat + config.cellSize.toNat - 1) / config.cellSize.toNat) *
    realMessages.toNat

theorem realCells_strong (hstrong : config.mode = .strong) (hsize : 0 < config.cellSize)
    (realMessages payloadSize : UInt64) :
    realCells checks config realMessages payloadSize =
      if checks = true ∧ 2 ^ 64 ≤ cellCount config realMessages payloadSize then none
      else some (UInt64.ofNat (cellCount config realMessages payloadSize)) := by
  have hpositive : 0 < config.cellSize.toNat := UInt64.lt_iff_toNat_lt.mp hsize
  have hnonzero : config.cellSize ≠ 0 := by
    intro hzero
    simp [hzero] at hpositive
  have hfits : (payloadSize.toNat + config.cellSize.toNat - 1) / config.cellSize.toNat <
      2 ^ 64 := by
    have hpayload := payloadSize.toNat_lt
    refine Nat.div_lt_of_lt_mul ?_
    omega
  have hcells : (max (UInt64.ofNat ((payloadSize.toNat + config.cellSize.toNat - 1) /
      config.cellSize.toNat)) 1).toNat =
        max 1 ((payloadSize.toNat + config.cellSize.toNat - 1) / config.cellSize.toNat) := by
    rw [toNat_max, UInt64.toNat_ofNat', Nat.mod_eq_of_lt hfits, Nat.max_comm]
    rfl
  have hcount : cellCount config realMessages payloadSize =
      (max (UInt64.ofNat ((payloadSize.toNat + config.cellSize.toNat - 1) /
        config.cellSize.toNat)) 1).toNat * realMessages.toNat := by
    rw [hcells]
    rfl
  simp only [realCells, hstrong, if_true, divCeil, if_neg hnonzero, Option.bind_eq_bind,
    Option.bind_some, mulU64, hcount, UInt64.ofNat_mul, UInt64.ofNat_toNat]

/-! #### Uniform packets -/

/-- The format of a cell. -/
def IsCell (config : TransportConfig) (packet : ObserverPacket) : Prop :=
  packet.sizeBucket = config.cellSize ∧ packet.outerFormat = "gp-cell/v1"

theorem cellRoute_uniform (hstrong : config.mode = .strong) :
    Draw.Yields (fun packets => ∀ packet ∈ packets, IsCell config packet)
      (cellRoute rng checks config sequence) := by
  unfold cellRoute
  refine Draw.yields_bind (Draw.yields_any _) fun times _ => ?_
  refine Draw.yields_collect fun hop _ => ?_
  unfold hopPacket
  refine Draw.yields_bind (Draw.yields_any _) fun tag _ => ?_
  refine Draw.yields_bind (Draw.yields_any _) fun jitter _ => ?_
  refine Draw.yields_bind (Draw.yields_any _) fun timestamp _ => ?_
  have hbucket : Draw.Yields (fun bucket => bucket = config.cellSize)
      (Draw.ofOption (sizeBucket checks config config.cellSize) : Draw ρ UInt64) := by
    refine Draw.yields_ofOption fun bucket hbucket => ?_
    rw [sizeBucket, if_pos hstrong] at hbucket
    exact (Option.some.inj hbucket).symm
  refine Draw.yields_bind hbucket fun bucket hbucket => Draw.yields_pure ⟨hbucket, ?_⟩
  exact if_pos hstrong

theorem cellPackets_uniform (hstrong : config.mode = .strong) :
    Draw.Yields (fun packets => ∀ packet ∈ packets, IsCell config packet)
      (cellPackets rng checks config cells) := by
  unfold cellPackets
  refine Draw.yields_bind (Draw.yields_collect fun cell _ => cellRoute_uniform hstrong)
    fun real hreal => ?_
  refine Draw.yields_bind (Draw.yields_collect fun cell _ =>
    Draw.yields_bind (Draw.yields_any _) fun sequence _ => cellRoute_uniform hstrong)
    fun cover hcover => ?_
  refine Draw.yields_bind (Draw.yields_retain _ _) fun kept hkept => ?_
  refine Draw.yields_bind (Draw.yields_retain _ _) fun duplicated hduplicated => ?_
  have hcells : ∀ packet ∈ kept, IsCell config packet := by
    intro packet hpacket
    rcases List.mem_append.mp (hkept.subset hpacket) with hmem | hmem
    · obtain ⟨packets, hpackets, hmem⟩ := List.mem_flatten.mp hmem
      exact hreal packets hpackets packet hmem
    · obtain ⟨packets, hpackets, hmem⟩ := List.mem_flatten.mp hmem
      exact hcover packets hpackets packet hmem
  refine Draw.yields_pure fun packet hpacket => ?_
  rcases List.mem_append.mp ((List.mem_insertionSort _).mp hpacket) with hmem | hmem
  · exact hcells packet hmem
  · obtain ⟨original, horiginal, rfl⟩ := List.mem_map.mp hmem
    exact hcells original (hduplicated.subset horiginal)

end Strong

/-! ### What a run counts -/

/-- The numbers of a summary add up, and its packets are in the order of their timestamps. -/
structure Accounted (summary : ObserverSummary) : Prop where
  total : summary.totalObservedPackets =
    summary.attemptedPackets - summary.droppedPackets + summary.duplicatedPackets
  kinds : summary.totalObservedPackets = summary.realPacketsKernelOnly + summary.coverPackets
  listed : summary.packets.length = summary.totalObservedPackets
  sorted : summary.packets.Pairwise fun a b => a.timestampMs ≤ b.timestampMs

section Counts

variable {ρ : Type} {rng : Rng ρ} {checks : Bool} {config : TransportConfig}
  {cells payloadSize : UInt64}

theorem simulateCells_accounted :
    Draw.Yields Accounted (simulateCells rng checks config cells payloadSize) := by
  unfold simulateCells
  refine Draw.yields_bind (Draw.yields_any _) fun real _ => ?_
  refine Draw.yields_bind (Draw.yields_any _) fun cover _ => ?_
  refine Draw.yields_bind (Draw.yields_retain _ _) fun kept hkept => ?_
  refine Draw.yields_bind (Draw.yields_any _) fun duplicated _ => Draw.yields_pure ?_
  have hlength := hkept.length_le
  refine ⟨?_, ?_, List.length_map _, ?_⟩
  · simp only [List.length_insertionSort, List.length_append, List.length_map]
    simp only [List.length_append] at hlength
    omega
  · have hreal := List.countP_le_length (p := fun packet : KernelPacket => packet.isReal)
      (l := (kept ++ duplicated.map KernelPacket.repeated).insertionSort
        fun a b => a.visible.timestampMs ≤ b.visible.timestampMs)
    simp only
    omega
  · exact List.pairwise_map.mpr (List.pairwise_insertionSort _ _)

/-! A build that wraps around always comes to a result. -/

theorem addU64_wraps (x y : UInt64) : (addU64 false x y).isSome := rfl
theorem mulU64_wraps (x y : UInt64) : (mulU64 false x y).isSome := rfl

theorem divCeil_returns {x y : UInt64} (h : y ≠ 0) : (divCeil x y).isSome := by
  rw [divCeil, if_neg h]
  rfl

theorem routeTimes_returns (sequence : UInt64) : (routeTimes false config sequence).isSome := by
  unfold routeTimes
  by_cases hnone : config.epochMs = 0
  · simp [hnone, mulU64]
  · simp [hnone, mulU64, divCeil]

theorem sizeBucket_returns (payloadSize : UInt64) : (sizeBucket false config payloadSize).isSome := by
  simp only [sizeBucket, nextPowerOfTwo, Bool.false_eq_true, if_false]
  split_ifs <;> rfl

theorem hopTimestamp_returns (base epochStart jitter : UInt64) (hop : ℕ) :
    (hopTimestamp false config base epochStart jitter hop).isSome := by
  unfold hopTimestamp
  split_ifs <;> rfl

theorem appendRoute_returns (sequence : UInt64) (isReal : Bool) :
    Draw.Returns (appendRoute rng false config sequence isReal payloadSize) := by
  unfold appendRoute
  refine Draw.returns_bind (Draw.returns_ofOption (routeTimes_returns sequence)) fun times => ?_
  refine Draw.returns_collect fun hop => ?_
  rw [map_eq_pure_bind]
  refine Draw.returns_bind ?_ fun visible => Draw.returns_pure _
  unfold hopPacket
  refine Draw.returns_bind (Draw.returns_next _) fun tag => ?_
  refine Draw.returns_bind ?_ fun jitter => ?_
  · split_ifs
    · exact Draw.returns_pure 0
    · exact Draw.returns_next _
  · refine Draw.returns_bind (Draw.returns_ofOption (hopTimestamp_returns _ _ _ hop))
      fun timestamp => ?_
    exact Draw.returns_bind (Draw.returns_ofOption (sizeBucket_returns payloadSize))
      fun bucket => Draw.returns_pure _

theorem happens_returns (percent : UInt8) : Draw.Returns (happens rng percent) :=
  Draw.returns_bind (Draw.returns_next _) fun _ => Draw.returns_pure _

theorem survives_returns (packet : ObserverPacket) : Draw.Returns (survives rng config packet) := by
  unfold survives
  refine Draw.returns_bind (happens_returns _) fun network => ?_
  refine Draw.returns_bind ?_ fun mix => Draw.returns_pure _
  split_ifs
  · exact happens_returns _
  · exact Draw.returns_pure false

theorem simulateCells_returns :
    Draw.Returns (simulateCells rng false config cells payloadSize) := by
  unfold simulateCells
  refine Draw.returns_bind (Draw.returns_collect fun message => appendRoute_returns _ true)
    fun real => ?_
  refine Draw.returns_bind (Draw.returns_collect fun message =>
    Draw.returns_bind (Draw.returns_ofOption (addU64_wraps _ _)) fun sequence =>
      appendRoute_returns sequence false) fun cover => ?_
  refine Draw.returns_bind (Draw.returns_retain fun packet => survives_returns packet.visible)
    fun kept => ?_
  exact Draw.returns_bind (Draw.returns_retain fun _ => happens_returns _)
    fun duplicated => Draw.returns_pure _

end Counts

/-! ### The observer of the strong mode -/

section Observer

variable {ρ : Type} (rng : Rng ρ) (checks : Bool) (config : TransportConfig) (seed : UInt64)

/-- Of a run in the strong mode the observer sees a number of cells, all alike: what it is shown is
what those cells show when nothing says which of them hold anything. -/
structure ObserverBlind : Prop where
  same : ∀ realMessages payloadSize realMessages' payloadSize',
    cellCount config realMessages payloadSize = cellCount config realMessages' payloadSize' →
    (simulateObserver rng checks config seed realMessages payloadSize).map (·.packets) =
      (simulateObserver rng checks config seed realMessages' payloadSize').map (·.packets)
  cells : ∀ realMessages payloadSize,
    (simulateObserver rng checks config seed realMessages payloadSize).map (·.packets) =
      (realCells checks config realMessages payloadSize).bind fun cells =>
        (cellPackets rng checks config cells (rng.seedFromU64 seed)).map Prod.fst
  uniform : ∀ realMessages payloadSize summary,
    simulateObserver rng checks config seed realMessages payloadSize = some summary →
    ∀ packet ∈ summary.packets, IsCell config packet
  returns : checks = false → ∀ realMessages payloadSize,
    (simulateObserver rng checks config seed realMessages payloadSize).isSome

variable {rng : Rng ρ} {checks : Bool} {config : TransportConfig} {seed : UInt64}

theorem simulateObserver_packets (hstrong : config.mode = .strong)
    (realMessages payloadSize : UInt64) :
    (simulateObserver rng checks config seed realMessages payloadSize).map (·.packets) =
      (realCells checks config realMessages payloadSize).bind fun cells =>
        (cellPackets rng checks config cells (rng.seedFromU64 seed)).map Prod.fst := by
  unfold simulateObserver
  cases hcells : realCells checks config realMessages payloadSize with
  | none => rfl
  | some cells =>
    have hvisible : ObserverSummary.packets <$>
        simulateCells rng checks config cells payloadSize = cellPackets rng checks config cells :=
      simulateCells_visible hstrong
    rw [Option.bind_some, ← hvisible, Draw.map_apply]
    cases hrun : simulateCells rng checks config cells payloadSize (rng.seedFromU64 seed) <;>
      simp [hrun]

theorem simulateObserver_eq_some {realMessages payloadSize : UInt64} {summary : ObserverSummary}
    (h : simulateObserver rng checks config seed realMessages payloadSize = some summary) :
    ∃ cells t, simulateCells rng checks config cells payloadSize (rng.seedFromU64 seed) =
      some (summary, t) := by
  simp only [simulateObserver, Option.bind_eq_bind, Option.bind_eq_some_iff, Option.some.injEq] at h
  obtain ⟨cells, -, ⟨_, t⟩, hrun, rfl⟩ := h
  exact ⟨cells, t, hrun⟩

theorem observer_blind (hstrong : config.mode = .strong) (hsize : 0 < config.cellSize) :
    ObserverBlind rng checks config seed where
  same realMessages payloadSize realMessages' payloadSize' hcount := by
    rw [simulateObserver_packets hstrong, simulateObserver_packets hstrong,
      realCells_strong hstrong hsize, realCells_strong hstrong hsize, hcount]
  cells := simulateObserver_packets hstrong
  uniform realMessages payloadSize summary h := by
    obtain ⟨cells, t, hrun⟩ := simulateObserver_eq_some h
    have hview := Draw.map_apply (simulateCells rng checks config cells payloadSize)
      ObserverSummary.packets (rng.seedFromU64 seed)
    rw [simulateCells_visible hstrong, hrun, Option.map_some] at hview
    exact cellPackets_uniform hstrong _ _ _ hview
  returns hchecks realMessages payloadSize := by
    subst hchecks
    have hcells : realCells false config realMessages payloadSize =
        some (UInt64.ofNat (cellCount config realMessages payloadSize)) := by
      rw [realCells_strong hstrong hsize, if_neg (by simp)]
    have hreturns : Draw.Returns (simulateCells rng false config
        (UInt64.ofNat (cellCount config realMessages payloadSize)) payloadSize) :=
      simulateCells_returns
    obtain ⟨result, hresult⟩ := Option.isSome_iff_exists.mp (hreturns (rng.seedFromU64 seed))
    simp [simulateObserver, hcells, hresult]

/-- A strong run is blind to sizes and dummies, and every run adds up and is sorted. -/
structure StrongModeHides (rng : Rng ρ) (checks : Bool) (config : TransportConfig) (seed : UInt64) :
    Prop where
  blind : config.mode = .strong → 0 < config.cellSize → ObserverBlind rng checks config seed
  accounted : ∀ realMessages payloadSize summary,
    simulateObserver rng checks config seed realMessages payloadSize = some summary →
    Accounted summary

theorem strong_mode_hides (rng : Rng ρ) (checks : Bool) (config : TransportConfig)
    (seed : UInt64) : StrongModeHides rng checks config seed where
  blind := observer_blind
  accounted realMessages payloadSize summary h := by
    obtain ⟨cells, t, hrun⟩ := simulateObserver_eq_some h
    exact simulateCells_accounted _ _ _ hrun

end Observer

/-- A generator that steps by five. -/
def sampleRng : Rng ℕ where
  seedFromU64 seed := seed.toNat
  randomU16 s := (UInt16.ofNat s, s + 5)
  randomPercent s := (UInt8.ofNat (s % 100), s + 5)
  randomRange low high s := (low + UInt64.ofNat s % (high - low + 1), s + 5)

/-- Two messages of 3000 bytes, and one of 7000, take four cells. -/
theorem strong_mode_hides_sample :
    StrongModeHides sampleRng true (.forMode .strong) 7 ∧
      (simulateObserver sampleRng true (.forMode .strong) 7 2 3000).map (·.packets) =
        (simulateObserver sampleRng true (.forMode .strong) 7 1 7000).map (·.packets) :=
  ⟨strong_mode_hides _ _ _ _,
    ((strong_mode_hides sampleRng true (.forMode .strong) 7).blind rfl (by decide)).same _ _ _ _
      (by decide)⟩

end MasterRecovery
