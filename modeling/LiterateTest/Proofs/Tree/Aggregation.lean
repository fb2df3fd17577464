import LiterateTest.Proofs.Tree.Node

/-! Counting and pruning, node by node: each node gets the counts of the results at it and below
it, and pruning takes out just the headings without any, so that no count has to change. -/

namespace LiterateTest

/-! ## Tallies -/

namespace Stats

/-- Counts that are those of some results. -/
structure Tallies (stats : Stats) (results : List TestResult) : Prop where
  total : stats.total = results.length
  passed : stats.passed = results.countP fun result => result.status == .pass
  /-- What could not be evaluated counts as failed. -/
  failed : stats.failed =
    results.countP fun result => result.status == .fail || result.status == .error
  skipped : stats.skipped = results.countP fun result => result.status == .skip
  parts : stats.total = stats.passed + stats.failed + stats.skipped

theorem tallies_ofResult (result : Option TestResult) :
    (ofResult result).Tallies result.toList := by
  cases result with
  | none => exact ⟨rfl, rfl, rfl, rfl, rfl⟩
  | some result =>
      constructor <;> cases status : result.status <;> simp [ofResult, ofStatus, status]

theorem Tallies.add {left right : Stats} {results others : List TestResult}
    (first : left.Tallies results) (second : right.Tallies others) :
    (left + right).Tallies (results ++ others) where
  total := by rw [total_add, first.total, second.total, List.length_append]
  passed := by rw [passed_add, first.passed, second.passed, List.countP_append]
  failed := by rw [failed_add, first.failed, second.failed, List.countP_append]
  skipped := by rw [skipped_add, first.skipped, second.skipped, List.countP_append]
  parts := by
    have own := first.parts
    have rest := second.parts
    rw [total_add, passed_add, failed_add, skipped_add]
    omega

end Stats

namespace NodeInfo

theorem tallies_count (infos : List NodeInfo) :
    (count infos).Tallies (infos.filterMap NodeInfo.result) := by
  induction infos with
  | nil => exact Stats.tallies_ofResult none
  | cons info infos induction =>
      have split : (info :: infos).filterMap NodeInfo.result =
          info.result.toList ++ infos.filterMap NodeInfo.result := by
        cases found : info.result <;> simp [found]
      rw [count_cons, split]
      exact (Stats.tallies_ofResult info.result).add induction

theorem count_filter_hasResult (infos : List NodeInfo) :
    count (infos.filter hasResult) = count infos := by
  induction infos with
  | nil => rfl
  | cons info infos induction =>
      cases found : info.result with
      | none =>
          have none : ¬info.hasResult = true := by simp [hasResult, found]
          rw [List.filter_cons_of_neg none, induction, count_cons, found]
          exact (Stats.zero_add _).symm
      | some result =>
          have some : info.hasResult = true := by simp [hasResult, found]
          rw [List.filter_cons_of_pos some, count_cons, count_cons, induction]

end NodeInfo

namespace Node

open NodeInfo

def results (tree : Node) : List TestResult := tree.infos.filterMap NodeInfo.result

/-! ## Counting at each place -/

theorem withStatsOf_eq_map (trees : List Node) : withStatsOf trees = trees.map withStats := by
  induction trees with
  | nil => rfl
  | cons child rest induction => rw [withStatsOf, List.map_cons, induction]

theorem descend?_withStats (path : List Nat) (tree : Node) :
    tree.withStats.descend? path = (tree.descend? path).map withStats := by
  induction path generalizing tree with
  | nil => rfl
  | cons index path induction =>
      cases tree with
      | node info children =>
          rw [withStats, descend?, descend?, Node.children, Node.children, withStatsOf_eq_map,
            List.getElem?_map]
          cases children[index]? with
          | none => rfl
          | some child => exact induction child

theorem uncounted_info_withStats (tree : Node) :
    tree.withStats.info.uncounted = tree.info.uncounted := by
  cases tree
  rfl

theorem tallies_withStats (tree : Node) : tree.withStats.info.stats.Tallies tree.results := by
  rw [stats_withStats]
  exact tallies_count tree.infos

/-! ## Pruning twice -/

theorem isEmptyHeading_prune (tree : Node) : tree.prune.isEmptyHeading = tree.isEmptyHeading := by
  rw [isEmptyHeading, info_prune, isEmptyHeading]

mutual
theorem prune_prune : ∀ tree : Node, tree.prune.prune = tree.prune
  | node info children => by
      rw [prune, prune, pruneAll_pruneAll children]

theorem pruneAll_pruneAll : ∀ trees : List Node, pruneAll (pruneAll trees) = pruneAll trees
  | [] => rfl
  | child :: rest => by
      rw [pruneAll]
      split
      · exact pruneAll_pruneAll rest
      · next kept =>
          rw [pruneAll, isEmptyHeading_prune, if_neg kept, prune_prune child,
            pruneAll_pruneAll rest]
end

mutual
theorem not_isEmptyHeading_prune : ∀ tree : Node, ∀ other ∈ allOf tree.prune.children,
    other.isEmptyHeading = false
  | node _ children => not_isEmptyHeading_pruneAll children

theorem not_isEmptyHeading_pruneAll : ∀ trees : List Node, ∀ other ∈ allOf (pruneAll trees),
    other.isEmptyHeading = false
  | [], other, member => by cases member
  | child :: rest, other, member => by
      rw [pruneAll] at member
      split at member
      · exact not_isEmptyHeading_pruneAll rest other member
      · next kept =>
          rw [allOf, List.mem_append] at member
          rcases member with member | member
          · have below := not_isEmptyHeading_prune child
            cases isPruned : child.prune with
            | node info children =>
                rw [isPruned, all, List.mem_cons] at member
                rcases member with rfl | member
                · rw [← isPruned, isEmptyHeading_prune]
                  simpa using kept
                · rw [isPruned] at below
                  exact below other member
          · exact not_isEmptyHeading_pruneAll rest other member
end

/-! ## Counting again -/

mutual
theorem withStats_prune : ∀ tree : Node, Counted [tree] → tree.prune.withStats = tree.prune
  | node info children, counted => by
      have below := withStatsOf_pruneAll children counted.below
      have kept : count (infosOf (pruneAll children)) = count (infosOf children) := by
        rw [← count_filter_hasResult, filter_hasResult_pruneAll children counted.below,
          count_filter_hasResult]
      have sum := stats_withStatsOf (pruneAll children)
      have own := counted.head
      rw [infos_node, count_cons] at own
      change info.stats = _ at own
      rw [prune, withStats, sum, kept, ← own, below]

theorem withStatsOf_pruneAll : ∀ trees : List Node, Counted trees →
    withStatsOf (pruneAll trees) = pruneAll trees
  | [], _ => rfl
  | child :: rest, counted => by
      have others := withStatsOf_pruneAll rest counted.tail
      rw [pruneAll]
      split
      · exact others
      · rw [withStatsOf, withStats_prune child counted.first, others]
end

/-! ## Both together -/

structure Aggregated (tree counted pruned : Node) : Prop where
  /-- Each node has the counts of its own subtree, and is otherwise as it was. -/
  tallied : ∀ path node, tree.descend? path = some node →
    ∃ found, counted.descend? path = some found ∧ found.info.uncounted = node.info.uncounted ∧
      found.info.stats.Tallies node.results
  no_others : ∀ path, tree.descend? path = none → counted.descend? path = none
  /-- Below the root no heading is left without a result below it. -/
  none_empty : ∀ node ∈ allOf pruned.children, node.info.kind = .heading → node.info.stats.total ≠ 0
  /-- What is left is as it was, with its counts. -/
  survivors : pruned.infos.Sublist counted.infos
  /-- All nodes that hold a result are left, in their order. -/
  same_results : pruned.infos.filter hasResult = counted.infos.filter hasResult
  original_results : (pruned.infos.filter hasResult).map uncounted =
    (tree.infos.filter hasResult).map uncounted
  counted_again : pruned.withStats = pruned
  pruned_again : pruned.prune = pruned

/-- Counting gives each node the counts of its subtree. Pruning then keeps all results and all
counts, and there is nothing more to count or to prune. -/
theorem aggregated (tree : Node) : Aggregated tree tree.withStats tree.withStats.prune := by
  have counted := counted_withStats tree
  have kept := filter_hasResult_prune tree.withStats counted
  constructor
  case tallied =>
    intro path node found
    exact ⟨node.withStats, by rw [descend?_withStats, found]; rfl, uncounted_info_withStats node,
      tallies_withStats node⟩
  case no_others =>
    intro path none
    rw [descend?_withStats, none]
    rfl
  case none_empty =>
    intro node member isHeading
    have notEmpty := not_isEmptyHeading_prune tree.withStats node member
    simpa [isEmptyHeading, isHeading] using notEmpty
  case survivors => exact prune_sublist tree.withStats
  case same_results => exact kept
  case original_results =>
    have same := congrArg (List.filter hasResult) (uncounted_withStats tree)
    rw [List.filter_map, List.filter_map] at same
    rw [kept]
    exact same
  case counted_again => exact withStats_prune tree.withStats counted
  case pruned_again => exact prune_prune tree.withStats

end Node

end LiterateTest
