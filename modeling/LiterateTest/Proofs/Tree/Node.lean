import LiterateTest.Tree.Node

/-! What changing, counting and pruning do to the nodes of a tree, read off the list of what its
nodes hold. -/

namespace LiterateTest

/-! ## Counts -/

namespace Stats

@[simp] theorem total_add (left right : Stats) :
    (left + right).total = left.total + right.total := rfl

@[simp] theorem passed_add (left right : Stats) :
    (left + right).passed = left.passed + right.passed := rfl

@[simp] theorem failed_add (left right : Stats) :
    (left + right).failed = left.failed + right.failed := rfl

@[simp] theorem skipped_add (left right : Stats) :
    (left + right).skipped = left.skipped + right.skipped := rfl

theorem eq_of_fields {left right : Stats} (total : left.total = right.total)
    (passed : left.passed = right.passed) (failed : left.failed = right.failed)
    (skipped : left.skipped = right.skipped) : left = right := by
  cases left
  cases right
  simp_all

theorem add_assoc (first second third : Stats) :
    first + second + third = first + (second + third) := by
  apply eq_of_fields <;> simp [Nat.add_assoc]

theorem zero_add (stats : Stats) : {} + stats = stats := by
  apply eq_of_fields <;> simp

@[simp] theorem sum_nil : sum [] = {} := rfl

@[simp] theorem sum_cons (first : Stats) (rest : List Stats) :
    sum (first :: rest) = first + sum rest := rfl

@[simp] theorem sum_append (left right : List Stats) :
    sum (left ++ right) = sum left + sum right := by
  induction left with
  | nil => rw [List.nil_append, sum_nil, zero_add]
  | cons first rest induction => rw [List.cons_append, sum_cons, sum_cons, induction, add_assoc]

end Stats

namespace NodeInfo

def isTest (info : NodeInfo) : Bool := info.kind == .test

def hasResult (info : NodeInfo) : Bool := info.result.isSome

def uncounted (info : NodeInfo) : NodeInfo := { info with stats := {} }

def count (infos : List NodeInfo) : Stats :=
  Stats.sum (infos.map fun info => Stats.ofResult info.result)

@[simp] theorem count_nil : count [] = {} := rfl

@[simp] theorem count_cons (info : NodeInfo) (infos : List NodeInfo) :
    count (info :: infos) = Stats.ofResult info.result + count infos := rfl

@[simp] theorem count_append (left right : List NodeInfo) :
    count (left ++ right) = count left + count right := by
  rw [count, List.map_append, Stats.sum_append]
  rfl

theorem count_uncounted (infos : List NodeInfo) : count (infos.map uncounted) = count infos := by
  rw [count, List.map_map]
  rfl

theorem total_count (infos : List NodeInfo) :
    (count infos).total = (infos.filter hasResult).length := by
  induction infos with
  | nil => rfl
  | cons info infos induction =>
      rw [count_cons, Stats.total_add, induction]
      cases found : info.result with
      | none => simp [Stats.ofResult, hasResult, found]
      | some result =>
          cases status : result.status <;>
            simp [Stats.ofResult, Stats.ofStatus, hasResult, found, status] <;> omega

theorem total_count_eq (infos : List NodeInfo) :
    (count infos).total =
      (count infos).passed + (count infos).failed + (count infos).skipped := by
  induction infos with
  | nil => rfl
  | cons info infos induction =>
      have own : (Stats.ofResult info.result).total = (Stats.ofResult info.result).passed
          + (Stats.ofResult info.result).failed + (Stats.ofResult info.result).skipped := by
        cases info.result with
        | none => rfl
        | some result =>
            cases status : result.status <;> simp [Stats.ofResult, Stats.ofStatus, status]
      simp only [count_cons, Stats.total_add, Stats.passed_add, Stats.failed_add,
        Stats.skipped_add]
      omega

end NodeInfo

namespace Node

open NodeInfo

/-! ## Walking -/

def infos (tree : Node) : List NodeInfo := tree.all.map info

def infosOf (trees : List Node) : List NodeInfo := (allOf trees).map info

@[simp] theorem infos_node (info : NodeInfo) (children : List Node) :
    (node info children).infos = info :: infosOf children := by
  simp [infos, infosOf, all, Node.info]

@[simp] theorem infosOf_nil : infosOf [] = [] := rfl

@[simp] theorem infosOf_cons (child : Node) (rest : List Node) :
    infosOf (child :: rest) = child.infos ++ infosOf rest := by
  simp [infos, infosOf, allOf]

theorem map_info_tests (tree : Node) : tree.tests.map info = tree.infos.filter NodeInfo.isTest := by
  rw [tests, infos, List.filter_map]
  rfl

/-! ## Changing tests -/

def changeIfTest (change : NodeInfo → NodeInfo) (info : NodeInfo) : NodeInfo :=
  if info.isTest then change info else info

mutual
theorem infos_mapTestsFrom (change : NodeInfo → NodeInfo) : ∀ (before : Nat) (tree : Node),
    (mapTestsFrom (fun _ => change) before tree).2.infos = tree.infos.map (changeIfTest change)
  | before, node info children => by
      rw [mapTestsFrom, infos_node, infos_node, infosOf_mapTestsOfFrom]
      rfl

theorem infosOf_mapTestsOfFrom (change : NodeInfo → NodeInfo) :
    ∀ (before : Nat) (trees : List Node),
      infosOf (mapTestsOfFrom (fun _ => change) before trees).2 =
        (infosOf trees).map (changeIfTest change)
  | before, [] => rfl
  | before, child :: rest => by
      rw [mapTestsOfFrom, infosOf_cons, infosOf_cons, infos_mapTestsFrom,
        infosOf_mapTestsOfFrom, List.map_append]
end

theorem infos_mapTests (change : NodeInfo → NodeInfo) (tree : Node) :
    (tree.mapTests change).infos = tree.infos.map (changeIfTest change) :=
  infos_mapTestsFrom change 0 tree

/-! ## Counting -/

mutual
theorem uncounted_withStats : ∀ tree : Node,
    tree.withStats.infos.map uncounted = tree.infos.map uncounted
  | node info children => by
      rw [withStats, infos_node, infos_node, List.map_cons, List.map_cons,
        uncounted_withStatsOf children]
      rfl

theorem uncounted_withStatsOf : ∀ trees : List Node,
    (infosOf (withStatsOf trees)).map uncounted = (infosOf trees).map uncounted
  | [] => rfl
  | child :: rest => by
      rw [withStatsOf, infosOf_cons, infosOf_cons, List.map_append, List.map_append,
        uncounted_withStats child, uncounted_withStatsOf rest]
end

mutual
theorem stats_withStats : ∀ tree : Node, tree.withStats.info.stats = count tree.infos
  | node info children => by
      rw [withStats, infos_node, count_cons, ← stats_withStatsOf children]
      rfl

theorem stats_withStatsOf : ∀ trees : List Node,
    Stats.sum ((withStatsOf trees).map fun tree => tree.info.stats) = count (infosOf trees)
  | [] => rfl
  | child :: rest => by
      rw [withStatsOf, List.map_cons, Stats.sum_cons, infosOf_cons, count_append,
        stats_withStats child, stats_withStatsOf rest]
end

/-- Every node holds the counts of the results at it and below it. -/
def Counted (trees : List Node) : Prop :=
  ∀ tree ∈ allOf trees, tree.info.stats = count tree.infos

theorem Counted.head {child : Node} {rest : List Node} (counted : Counted (child :: rest)) :
    child.info.stats = count child.infos := by
  apply counted
  cases child
  simp [allOf, all]

theorem Counted.first {child : Node} {rest : List Node} (counted : Counted (child :: rest)) :
    Counted [child] := by
  intro tree member
  apply counted
  simp only [allOf, List.append_nil] at member
  exact List.mem_append_left _ member

theorem Counted.below {info : NodeInfo} {children rest : List Node}
    (counted : Counted (node info children :: rest)) : Counted children := by
  intro tree member
  apply counted
  simp [allOf, all, member]

theorem Counted.tail {child : Node} {rest : List Node} (counted : Counted (child :: rest)) :
    Counted rest := by
  intro tree member
  apply counted
  simp [allOf, member]

theorem count_withStats (tree : Node) : count tree.withStats.infos = count tree.infos := by
  rw [← count_uncounted, uncounted_withStats, count_uncounted]

mutual
theorem counted_withStats : ∀ tree : Node, Counted [tree.withStats]
  | node info children => by
      intro tree member
      simp only [withStats, allOf, all, List.append_nil, List.mem_cons] at member
      rcases member with rfl | member
      · have root := stats_withStats (node info children)
        rw [← count_withStats] at root
        exact root
      · exact counted_withStatsOf children tree member

theorem counted_withStatsOf : ∀ trees : List Node, Counted (withStatsOf trees)
  | [] => by
      intro tree member
      cases member
  | child :: rest => by
      intro tree member
      rw [withStatsOf, allOf, List.mem_append] at member
      rcases member with member | member
      · exact counted_withStats child tree (by simpa [allOf] using member)
      · exact counted_withStatsOf rest tree member
end

/-! ## Pruning -/

theorem filter_hasResult_of_isEmptyHeading {child : Node} {rest : List Node}
    (counted : Counted (child :: rest)) (empty : child.isEmptyHeading = true) :
    child.infos.filter hasResult = [] := by
  have total : child.info.stats.total = 0 := by
    rw [isEmptyHeading, Bool.and_eq_true] at empty
    simpa using empty.2
  rw [counted.head, total_count] at total
  exact List.length_eq_zero_iff.mp total

mutual
theorem filter_hasResult_prune : ∀ tree : Node, Counted [tree] →
    tree.prune.infos.filter hasResult = tree.infos.filter hasResult
  | node info children, counted => by
      rw [prune, infos_node, infos_node, List.filter_cons, List.filter_cons,
        filter_hasResult_pruneAll children counted.below]

theorem filter_hasResult_pruneAll : ∀ trees : List Node, Counted trees →
    (infosOf (pruneAll trees)).filter hasResult = (infosOf trees).filter hasResult
  | [], _ => rfl
  | child :: rest, counted => by
      have others := filter_hasResult_pruneAll rest counted.tail
      have own := filter_hasResult_prune child counted.first
      cases empty : child.isEmptyHeading with
      | true =>
          have none := filter_hasResult_of_isEmptyHeading counted empty
          rw [pruneAll, if_pos empty, infosOf_cons, List.filter_append, none, others]
          rfl
      | false =>
          rw [pruneAll, if_neg (by simp [empty]), infosOf_cons, infosOf_cons, List.filter_append,
            List.filter_append, own, others]
end

mutual
theorem prune_sublist : ∀ tree : Node, tree.prune.infos.Sublist tree.infos
  | node info children => by
      rw [prune, infos_node, infos_node]
      exact (pruneAll_sublist children).cons_cons info

theorem pruneAll_sublist : ∀ trees : List Node, (infosOf (pruneAll trees)).Sublist (infosOf trees)
  | [] => .slnil
  | child :: rest => by
      rw [pruneAll, infosOf_cons]
      split
      · exact (pruneAll_sublist rest).trans (List.sublist_append_right _ _)
      · rw [infosOf_cons]
        exact (prune_sublist child).append (pruneAll_sublist rest)
end

theorem filter_isTest_prune {tree : Node} (counted : Counted [tree])
    (judged : ∀ info ∈ tree.infos, info.isTest = info.hasResult) :
    tree.prune.infos.filter NodeInfo.isTest = tree.infos.filter NodeInfo.isTest := by
  have before : tree.infos.filter NodeInfo.isTest = tree.infos.filter hasResult :=
    List.filter_congr judged
  have after : tree.prune.infos.filter NodeInfo.isTest = tree.prune.infos.filter hasResult :=
    List.filter_congr fun info member => judged info ((prune_sublist tree).subset member)
  rw [before, after, filter_hasResult_prune tree counted]

@[simp] theorem info_prune (tree : Node) : tree.prune.info = tree.info := by
  cases tree
  rfl

end Node

end LiterateTest
