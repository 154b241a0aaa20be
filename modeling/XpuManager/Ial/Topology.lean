import Mathlib.Data.Set.Basic
import XpuManager.Lib.CommonPrefix

/-! # How two devices are linked

`cmdTopology::determineLinkType` (`ial/cmn/cmd_topology.cpp`) names the link of two nodes of the
topology matrix. -/

namespace XpuManager

/-- A bridge on the way to a device. -/
structure PcieBridgeLink where
  bdf : String
  isHostBridge : Bool

abbrev PciePath := List PcieBridgeLink

/-- Whether a node is a GPU or a network card. -/
inductive NodeData where
  | gpu (deviceId tileId : Int)
  | nic (nicIndex : Int)

/-- A node of the topology: its NUMA node and its path. -/
structure TopoNode where
  numaNode : Option Int := none
  pciePath : Option PciePath := none
  data : NodeData

/-- The types of links, the closest first. -/
inductive LinkType where
  | S
  | MDF
  | PIX
  | PXB
  | PHB
  | NODE
  | SYS
  deriving DecidableEq

/-- The loop over two paths counts the hops that they share. -/
def commonHops (p1 p2 : PciePath) : Nat :=
  commonLen (p1.map PcieBridgeLink.bdf) (p2.map PcieBridgeLink.bdf)

/-- The two nodes have one identity. -/
def isSelf : NodeData → NodeData → Bool
  | .gpu deviceId tileId, .gpu deviceId' tileId' => deviceId = deviceId' ∧ tileId = tileId'
  | .nic nicIndex, .nic nicIndex' => nicIndex = nicIndex'
  | _, _ => false

/-- The two nodes are tiles of one device. -/
def isTilePair : NodeData → NodeData → Bool
  | .gpu deviceId tileId, .gpu deviceId' tileId' => deviceId = deviceId' ∧ tileId ≠ tileId'
  | _, _ => false

/-- The link between two nodes by their paths. -/
def pathLink (p1 p2 : PciePath) : LinkType :=
  if commonHops p1 p2 ≥ 3 then .PIX
  else if commonHops p1 p2 = 2 then .PXB
  else if commonHops p1 p2 = 1 then .PHB
  else .SYS

/-- The link between two nodes by their NUMA nodes. -/
def numaLink (numa1 numa2 : Option Int) : LinkType :=
  if numa1.isSome ∧ numa1 = numa2 then .NODE else .SYS

/-- The link between two devices: the chain of decisions of the source. -/
def determineLinkType (node1 node2 : TopoNode) : LinkType :=
  if isSelf node1.data node2.data then .S
  else if isTilePair node1.data node2.data then .MDF
  else
    match node1.pciePath, node2.pciePath with
    | some p1, some p2 => pathLink p1 p2
    | _, _ => numaLink node1.numaNode node2.numaNode

/-! ## Closeness -/

/-- The closeness of two nodes that are neither one nor on one device. -/
def LinkType.closeness : LinkType → Nat
  | .PIX => 3
  | .PXB => 2
  | .PHB => 1
  | _ => 0

/-- The nodes are neither one nor on one device. -/
def Apart (a b : TopoNode) : Prop :=
  determineLinkType a b ≠ .S ∧ determineLinkType a b ≠ .MDF

instance (a b : TopoNode) : Decidable (Apart a b) :=
  inferInstanceAs (Decidable (_ ∧ _))

/-- The nodes are one, or linked at least as closely as `link` says. -/
def AtLeast (link : LinkType) (a b : TopoNode) : Prop :=
  a = b ∨ link.closeness ≤ (determineLinkType a b).closeness

section

variable {a b c : TopoNode} {p q : PciePath} {x y : NodeData}

theorem isSelf_comm (x y : NodeData) : isSelf x y = isSelf y x := by
  cases x <;> cases y <;> simp [isSelf, eq_comm]

theorem isTilePair_comm (x y : NodeData) : isTilePair x y = isTilePair y x := by
  cases x <;> cases y <;> simp [isTilePair, eq_comm]

theorem pathLink_comm (p q : PciePath) : pathLink p q = pathLink q p := by
  rw [pathLink, pathLink, commonHops, commonHops, commonLen_comm]

theorem numaLink_comm (m n : Option Int) : numaLink m n = numaLink n m := by
  have hiff : (m.isSome ∧ m = n) ↔ (n.isSome ∧ n = m) := by
    constructor
    · rintro ⟨h, rfl⟩
      exact ⟨h, rfl⟩
    · rintro ⟨h, rfl⟩
      exact ⟨h, rfl⟩
  rw [numaLink, numaLink]
  simp only [hiff]

/-- A link has one name from both ends. -/
theorem determineLinkType_comm (a b : TopoNode) : determineLinkType a b = determineLinkType b a := by
  rw [determineLinkType, determineLinkType, isSelf_comm, isTilePair_comm, numaLink_comm]
  cases a.pciePath with
  | none => cases b.pciePath <;> rfl
  | some p =>
    cases b.pciePath with
    | none => rfl
    | some q => simp only [pathLink_comm p q]

/-- Between nodes with PCIe paths, the link says how long a path they share. -/
theorem closeness_pathLink (p q : PciePath) : (pathLink p q).closeness = min 3 (commonHops p q) := by
  rw [pathLink]
  split_ifs
  · simp only [LinkType.closeness]
    omega
  · simp only [LinkType.closeness]
    omega
  · simp only [LinkType.closeness]
    omega
  · simp only [LinkType.closeness]
    omega

/-- The link of nodes that are apart is the one of their paths. -/
theorem determineLinkType_of_apart (hapart : Apart a b) (ha : a.pciePath = some p)
    (hb : b.pciePath = some q) : determineLinkType a b = pathLink p q := by
  obtain ⟨hself, htiles⟩ := hapart
  rw [determineLinkType] at hself htiles ⊢
  split_ifs at hself htiles ⊢ with h h'
  · exact absurd rfl hself
  · exact absurd rfl htiles
  · rw [ha, hb]

/-- Two nodes are as close as either is to a third. -/
theorem min_le_closeness (ha : a.pciePath.isSome) (hb : b.pciePath.isSome)
    (hc : c.pciePath.isSome) (hab : Apart a b) (hbc : Apart b c) (hac : Apart a c) :
    min (determineLinkType a b).closeness (determineLinkType b c).closeness ≤
      (determineLinkType a c).closeness := by
  obtain ⟨p, hp⟩ := Option.isSome_iff_exists.mp ha
  obtain ⟨q, hq⟩ := Option.isSome_iff_exists.mp hb
  obtain ⟨r, hr⟩ := Option.isSome_iff_exists.mp hc
  rw [determineLinkType_of_apart hab hp hq, determineLinkType_of_apart hbc hq hr,
    determineLinkType_of_apart hac hp hr, closeness_pathLink, closeness_pathLink, closeness_pathLink]
  have hops : min (commonHops p q) (commonHops q r) ≤ commonHops p r := min_le_commonLen ..
  omega

theorem AtLeast.symm {link : LinkType} (h : AtLeast link a b) : AtLeast link b a :=
  h.imp Eq.symm fun h => by rwa [determineLinkType_comm]

/-- Where a node is as close to two others, these are as close to each other. -/
theorem AtLeast.trans {link : LinkType} {nodes : Set TopoNode}
    (hpaths : ∀ a ∈ nodes, a.pciePath.isSome)
    (hapart : ∀ a ∈ nodes, ∀ b ∈ nodes, a ≠ b → Apart a b) (ha : a ∈ nodes) (hb : b ∈ nodes)
    (hc : c ∈ nodes) (hab : AtLeast link a b) (hbc : AtLeast link b c) : AtLeast link a c := by
  by_cases hab' : a = b
  · exact hab' ▸ hbc
  by_cases hbc' : b = c
  · exact hbc' ▸ hab
  by_cases hac' : a = c
  · exact .inl hac'
  have hmin := min_le_closeness (hpaths a ha) (hpaths b hb) (hpaths c hc) (hapart a ha b hb hab')
    (hapart b hb c hc hbc') (hapart a ha c hc hac')
  exact .inr ((le_min (hab.resolve_left hab') (hbc.resolve_left hbc')).trans hmin)

/-- A link has one name from both ends. Among three nodes with PCIe paths, neither one nor on one
device, two are as close as either is to the third; so among many such nodes each bound on the
closeness is an equivalence. -/
theorem determineLinkType_closeness :
    (∀ a b, determineLinkType a b = determineLinkType b a) ∧
    (∀ a b c : TopoNode, a.pciePath.isSome → b.pciePath.isSome → c.pciePath.isSome →
      Apart a b → Apart b c → Apart a c →
      min (determineLinkType a b).closeness (determineLinkType b c).closeness ≤
        (determineLinkType a c).closeness) ∧
    (∀ nodes : Set TopoNode, (∀ a ∈ nodes, a.pciePath.isSome) →
      (∀ a ∈ nodes, ∀ b ∈ nodes, a ≠ b → Apart a b) →
      ∀ link, Equivalence fun a b : nodes => AtLeast link a b) := by
  refine ⟨determineLinkType_comm, fun a b c ha hb hc => min_le_closeness ha hb hc, ?_⟩
  intro nodes hpaths hapart link
  exact ⟨fun a => .inl rfl, AtLeast.symm, @fun a b c => AtLeast.trans hpaths hapart a.2 b.2 c.2⟩

/-- Three cards, two of them behind one switch. -/
def threeCards : Fin 3 → TopoNode
  | 0 => { pciePath := some [⟨"pci0000:00", true⟩, ⟨"0000:00:1c.0", false⟩, ⟨"0000:01:00.0", false⟩]
           data := .gpu 0 0 }
  | 1 => { pciePath := some [⟨"pci0000:00", true⟩, ⟨"0000:00:1c.0", false⟩, ⟨"0000:01:00.0", false⟩]
           data := .gpu 1 0 }
  | 2 => { pciePath := some [⟨"pci0000:00", true⟩, ⟨"0000:00:1d.0", false⟩], data := .nic 0 }

theorem determineLinkType_closeness_cards :
    min (determineLinkType (threeCards 0) (threeCards 1)).closeness
        (determineLinkType (threeCards 1) (threeCards 2)).closeness ≤
      (determineLinkType (threeCards 0) (threeCards 2)).closeness :=
  determineLinkType_closeness.2.1 (threeCards 0) (threeCards 1) (threeCards 2) rfl rfl rfl
    (by decide) (by decide) (by decide)

end

end XpuManager
