import FleetPatch.Proofs.Logs
import FleetPatch.Workbench

/-!
# Comparisons as partitions

The three parts of a comparison are increasing, so they are known from their
members. A query that listed its keys once keeps them, and compared the other way
round it gives the same parts with the sides exchanged, without asking a host.
-/

namespace FleetPatch

set_option autoImplicit false

namespace Comparison

theorem increasing_insertKey {key : String} {keys : List String}
    (increasing : keys.Pairwise (· < ·)) : (insertKey key keys).Pairwise (· < ·) := by
  induction keys with
  | nil => simp [insertKey]
  | cons head rest induction =>
      obtain ⟨least, ordered⟩ := List.pairwise_cons.mp increasing
      by_cases below : key < head
      · simp only [insertKey, below, if_true]
        apply List.pairwise_cons.mpr
        refine ⟨?_, increasing⟩
        intro other member
        rcases List.mem_cons.mp member with same | later
        · exact same ▸ below
        · exact String.lt_trans below (least other later)
      · by_cases same : key = head
        · simpa [insertKey, below, same] using increasing
        · have above : head < key :=
            String.not_le.mp fun reached =>
              same (String.le_antisymm reached (String.not_lt.mp below))
          simp only [insertKey, below, same, if_false]
          apply List.pairwise_cons.mpr
          refine ⟨?_, induction ordered⟩
          intro other member
          rcases mem_insert_key.mp member with found | later
          · exact found ▸ above
          · exact least other later

theorem increasing_keySet (keys : List String) : (keySet keys).Pairwise (· < ·) := by
  induction keys with
  | nil => exact .nil
  | cons head rest induction => exact increasing_insertKey induction

theorem eq_of_increasing {first second : List String} (increasing : first.Pairwise (· < ·))
    (other : second.Pairwise (· < ·)) (same : ∀ key, key ∈ first ↔ key ∈ second) :
    first = second := by
  have distinct {keys : List String} (ordered : keys.Pairwise (· < ·)) : keys.Nodup := by
    apply ordered.imp
    intro left right below equal
    exact String.lt_irrefl left (equal ▸ below)
  apply List.Perm.eq_of_pairwise _ increasing other
  · exact (List.perm_ext_iff_of_nodup (distinct increasing) (distinct other)).mpr same
  · exact fun _ _ _ _ below above => absurd above (String.lt_asymm below)

/-- A comparison parts the keys of two sides: its lists are increasing by code point, have no key in
common, and hold the keys of both sides and of either side alone. -/
structure Partitions (first second : String → Prop) (comparison : Comparison String) : Prop where
  common_increasing : comparison.common.Pairwise (· < ·)
  onlyFirst_increasing : comparison.onlyFirst.Pairwise (· < ·)
  onlySecond_increasing : comparison.onlySecond.Pairwise (· < ·)
  mem_common : ∀ key, key ∈ comparison.common ↔ first key ∧ second key
  mem_onlyFirst : ∀ key, key ∈ comparison.onlyFirst ↔ first key ∧ ¬ second key
  mem_onlySecond : ∀ key, key ∈ comparison.onlySecond ↔ second key ∧ ¬ first key
  common_apart : ∀ key ∈ comparison.common,
    key ∉ comparison.onlyFirst ∧ key ∉ comparison.onlySecond
  sides_apart : ∀ key ∈ comparison.onlyFirst, key ∉ comparison.onlySecond
  identical_iff : comparison.identical = true ↔ ∀ key, first key ↔ second key

theorem partitions_ofKeys (left right : List String) :
    (ofKeys left right).Partitions (· ∈ left) (· ∈ right) where
  common_increasing := (increasing_keySet left).filter _
  onlyFirst_increasing := (increasing_keySet left).filter _
  onlySecond_increasing := (increasing_keySet right).filter _
  mem_common key := by simp [ofKeys, mem_key_set]
  mem_onlyFirst key := by simp [ofKeys, mem_key_set]
  mem_onlySecond key := by simp [ofKeys, mem_key_set]
  common_apart key := by simp +contextual [ofKeys, mem_key_set]
  sides_apart key := by simp +contextual [ofKeys, mem_key_set]
  identical_iff := by
    simp [identical, ofKeys, List.isEmpty_iff, List.filter_eq_nil_iff, mem_key_set, iff_def,
      forall_and]

theorem Partitions.congr {first second other another : String → Prop}
    {comparison : Comparison String} (parted : comparison.Partitions first second)
    (sameFirst : ∀ key, other key ↔ first key) (sameSecond : ∀ key, another key ↔ second key) :
    comparison.Partitions other another := by
  rwa [show other = first from funext fun key => propext (sameFirst key),
    show another = second from funext fun key => propext (sameSecond key)]

theorem Partitions.unique {first second : String → Prop} {comparison other : Comparison String}
    (parted : comparison.Partitions first second) (again : other.Partitions first second) :
    comparison = other := by
  have common := eq_of_increasing parted.common_increasing again.common_increasing fun key =>
    (parted.mem_common key).trans (again.mem_common key).symm
  have onlyFirst := eq_of_increasing parted.onlyFirst_increasing again.onlyFirst_increasing
    fun key => (parted.mem_onlyFirst key).trans (again.mem_onlyFirst key).symm
  have onlySecond := eq_of_increasing parted.onlySecond_increasing again.onlySecond_increasing
    fun key => (parted.mem_onlySecond key).trans (again.mem_onlySecond key).symm
  cases comparison
  cases other
  simp_all

def swapped {κ : Type} (comparison : Comparison κ) : Comparison κ :=
  ⟨comparison.common, comparison.onlySecond, comparison.onlyFirst⟩

theorem Partitions.swapped {first second : String → Prop} {comparison : Comparison String}
    (parted : comparison.Partitions first second) : comparison.swapped.Partitions second first where
  common_increasing := parted.common_increasing
  onlyFirst_increasing := parted.onlySecond_increasing
  onlySecond_increasing := parted.onlyFirst_increasing
  mem_common key := (parted.mem_common key).trans and_comm
  mem_onlyFirst := parted.mem_onlySecond
  mem_onlySecond := parted.mem_onlyFirst
  common_apart key common := (parted.common_apart key common).symm
  sides_apart key second first := parted.sides_apart key first second
  identical_iff := by
    have same := parted.identical_iff
    simp only [identical, Comparison.swapped, Bool.and_comm] at same ⊢
    rw [same]
    exact forall_congr' fun _ => iff_comm

theorem ofKeys_swap (left right : List String) : ofKeys right left = (ofKeys left right).swapped :=
  (partitions_ofKeys right left).unique (partitions_ofKeys left right).swapped

end Comparison

namespace Run

variable {ε κ σ α β : Type} {kept : κ → Option α} {keep : α → κ → κ} {read : Run ε σ α}

theorem cached_of_kept {part : κ} {value : α} (held : kept part = some value) (now : σ) :
    cached kept keep false read (part, now) = (.ok value, (part, now)) := by
  have stored : (if false then none else kept part) = some value := held
  simp only [cached, stored]

theorem kept_of_cached (keeps : ∀ value part, kept (keep value part) = some value) {refresh : Bool}
    {part after : κ} {now rest : σ} {value : α}
    (given : cached kept keep refresh read (part, now) = (.ok value, (after, rest))) :
    kept after = some value := by
  cases stored : (if refresh then none else kept part) with
  | some other =>
      simp only [cached, stored] at given
      cases given
      cases refresh with
      | true => cases stored
      | false => exact stored
  | none =>
      rcases stepped : read now with ⟨outcome, later⟩
      cases outcome <;> simp only [cached, stored, stepped] at given <;> cases given
      exact keeps value part

theorem cached_again (keeps : ∀ value part, kept (keep value part) = some value) {part after : κ}
    {now rest : σ} {change : α → β} {value : β}
    (given : (cached kept keep false read >>= fun read => pure (change read)) (part, now) =
      (.ok value, (after, rest))) (later : σ) :
    (cached kept keep false read >>= fun read => pure (change read)) (after, later) =
      (.ok value, (after, later)) := by
  rcases stepped : cached kept keep false read (part, now) with ⟨outcome, state, middle⟩
  cases outcome with
  | error fault =>
      rw [bind_apply_error stepped] at given
      cases given
  | ok first =>
      rw [bind_apply_ok stepped] at given
      cases given
      exact bind_apply_ok (cached_of_kept (kept_of_cached keeps stepped) later)

end Run

namespace Agent

variable {σ : Type} {host : Transport σ}

theorem keys_updateQuery (cache : UpdateQuery.Cache) (now : σ) :
    keys host (.updateQuery cache, now) =
      ((UpdateQuery.names host (cache, now)).1,
        (.updateQuery (UpdateQuery.names host (cache, now)).2.1,
          (UpdateQuery.names host (cache, now)).2.2)) := by
  rcases listed : UpdateQuery.names host (cache, now) with ⟨outcome, after, rest⟩
  have performed : perform host .names (.updateQuery cache, now) =
      (outcome.map .names, (.updateQuery after, rest)) := by
    simp only [perform, performUpdateQuery, keeping, listed]
    cases outcome <;> rfl
  cases outcome with
  | error fault => exact Run.bind_apply_error performed
  | ok names => exact Run.bind_apply_ok performed

theorem keys_packageQuery (manager : Manager) (cache : PackageQuery.Cache) (now : σ) :
    keys host (.packageQuery manager cache, now) =
      ((PackageQuery.names host manager (cache, now)).1,
        (.packageQuery manager (PackageQuery.names host manager (cache, now)).2.1,
          (PackageQuery.names host manager (cache, now)).2.2)) := by
  rcases listed : PackageQuery.names host manager (cache, now) with ⟨outcome, after, rest⟩
  have performed : perform host .names (.packageQuery manager cache, now) =
      (outcome.map .names, (.packageQuery manager after, rest)) := by
    simp only [perform, performPackageQuery, keeping, listed]
    cases outcome <;> rfl
  cases outcome with
  | error fault => exact Run.bind_apply_error performed
  | ok names => exact Run.bind_apply_ok performed

theorem keys_again {agent after : Agent} {now rest : σ} {keys : List String}
    (listed : Agent.keys host (agent, now) = (.ok keys, (after, rest))) :
    agent.isQuery = true ∧
      ∀ later, Agent.keys host (after, later) = (.ok keys, (after, later)) := by
  cases agent with
  | updateQuery cache =>
      rw [keys_updateQuery] at listed
      rcases stepped : UpdateQuery.names host (cache, now) with ⟨outcome, kept, middle⟩
      rw [stepped] at listed
      cases listed
      refine ⟨rfl, fun later => ?_⟩
      have again : UpdateQuery.names host (kept, later) = (.ok keys, (kept, later)) :=
        Run.cached_again (by exact fun _ _ => rfl) stepped later
      rw [keys_updateQuery, again]
  | packageQuery manager cache =>
      rw [keys_packageQuery] at listed
      rcases stepped : PackageQuery.names host manager (cache, now) with ⟨outcome, kept, middle⟩
      rw [stepped] at listed
      cases listed
      refine ⟨rfl, fun later => ?_⟩
      have again : PackageQuery.names host manager (kept, later) = (.ok keys, (kept, later)) :=
        Run.cached_again (by exact fun _ _ => rfl) stepped later
      rw [keys_packageQuery, again]
  | updateExecutor cache => cases listed
  | packageExecutor manager => cases listed

end Agent

namespace Workbench

variable {σ α : Type} {transports : String → Transport σ} {bench : Workbench}

theorem lookup_put (name other : String) (post : Post) :
    (put name post bench).lookup other =
      if other = name then some post else bench.lookup other := by
  induction bench with
  | nil =>
      by_cases same : other = name
      · simp [put, same]
      · simp [put, List.lookup_cons, beq_eq_false_iff_ne.mpr same, same]
  | cons entry rest induction =>
      obtain ⟨key, old⟩ := entry
      by_cases found : key = name
      · subst found
        by_cases same : other = key
        · simp [put, same]
        · simp [put, List.lookup_cons, beq_eq_false_iff_ne.mpr same, same]
      · by_cases same : other = key
        · subst same
          simp [put, found]
        · simp [put, List.lookup_cons, beq_eq_false_iff_ne.mpr same, found, induction]

theorem put_of_lookup {name : String} {post : Post} (found : bench.lookup name = some post) :
    put name post bench = bench := by
  induction bench with
  | nil => cases found
  | cons entry rest induction =>
      obtain ⟨key, old⟩ := entry
      by_cases same : key = name
      · subst same
        simp at found
        simp [put, found]
      · simp [List.lookup_cons, beq_eq_false_iff_ne.mpr (Ne.symm same)] at found
        simp [put, same, induction found]

theorem find_of_lookup {name : String} {post : Post} (found : bench.lookup name = some post)
    (now : σ) : find name (bench, now) = (.ok post, (bench, now)) := by
  simp only [find, found]

theorem withAgent_of_lookup {name : String} {post : Post} {agent : Agent} {now after : σ}
    {work : Transport σ → Run Fault (Agent × σ) α} {outcome : Except Fault α}
    (found : bench.lookup name = some post)
    (worked : work (transports post.host) (post.agent, now) = (outcome, (agent, after))) :
    withAgent transports name work (bench, now) =
      (outcome, (put name ⟨post.host, agent⟩ bench, after)) := by
  refine (Run.bind_apply_ok (find_of_lookup found now)).trans ?_
  simp only [worked]

theorem exists_of_withAgent_ok {name : String} {now : σ} {last : Workbench × σ}
    {work : Transport σ → Run Fault (Agent × σ) α} {value : α}
    (succeeded : withAgent transports name work (bench, now) = (.ok value, last)) :
    ∃ post agent after, bench.lookup name = some post ∧
      work (transports post.host) (post.agent, now) = (.ok value, (agent, after)) ∧
      last = (put name ⟨post.host, agent⟩ bench, after) := by
  cases found : bench.lookup name with
  | none =>
      have unknown : find name (bench, now) = (.error .unknownName, (bench, now)) := by
        simp only [find, found]
      have failed := (Run.bind_apply_error unknown).symm.trans succeeded
      cases failed
  | some post =>
      rcases worked : work (transports post.host) (post.agent, now) with ⟨outcome, agent, after⟩
      rw [withAgent_of_lookup found worked] at succeeded
      cases succeeded
      exact ⟨post, agent, after, rfl, worked, rfl⟩

/-- Keys that were listed are listed again without a host, as long as the name stands for the agent
that listed them. -/
theorem listed_again {name : String} {now : σ} {last : Workbench × σ} {keys : List String}
    (listed : withAgent transports name Agent.keys (bench, now) = (.ok keys, last))
    {other : Workbench} (same : other.lookup name = last.1.lookup name) (later : σ) :
    withAgent transports name Agent.keys (other, later) = (.ok keys, (other, later)) := by
  obtain ⟨post, agent, after, found, worked, rfl⟩ := exists_of_withAgent_ok listed
  rw [lookup_put, if_pos rfl] at same
  have again : withAgent transports name Agent.keys (other, later) = _ :=
    withAgent_of_lookup same ((Agent.keys_again worked).2 later)
  rwa [put_of_lookup same] at again

theorem compare_of_listed {first second : String} {now : σ} {middle last : Workbench × σ}
    {left right : List String}
    (firstListed : withAgent transports first Agent.keys (bench, now) = (.ok left, middle))
    (secondListed : withAgent transports second Agent.keys middle = (.ok right, last)) :
    compare transports first second (bench, now) = (.ok (Comparison.ofKeys left right), last) := by
  obtain ⟨post, agent, after, found, worked, rfl⟩ := exists_of_withAgent_ok firstListed
  obtain ⟨other, _, _, otherFound, _, _⟩ := exists_of_withAgent_ok secondListed
  have known : ∃ other, bench.lookup second = some other := by
    rw [lookup_put] at otherFound
    by_cases same : second = first
    · exact ⟨post, same ▸ found⟩
    · exact ⟨other, by simpa [same] using otherFound⟩
  obtain ⟨other, otherFound⟩ := known
  refine (Run.bind_apply_ok (find_of_lookup found now)).trans ?_
  rw [(Agent.keys_again worked).1, if_pos rfl]
  refine (Run.bind_apply_ok (find_of_lookup otherFound now)).trans ?_
  refine (Run.bind_apply_ok firstListed).trans ?_
  exact Run.bind_apply_ok secondListed

/-- Compared again the other way round, two agents exchange the sides and leave everything as it
is. -/
theorem compare_back {first second : String} {now : σ} {middle last : Workbench × σ}
    {left right : List String}
    (firstListed : withAgent transports first Agent.keys (bench, now) = (.ok left, middle))
    (secondListed : withAgent transports second Agent.keys middle = (.ok right, last)) :
    compare transports second first last =
      (.ok (Comparison.ofKeys left right).swapped, last) := by
  have secondAgain := listed_again secondListed rfl last.2
  have firstAgain : withAgent transports first Agent.keys last = (.ok left, last) := by
    by_cases same : first = second
    · -- One and the same agent was asked twice, and answered the second time from what it keeps.
      subst same
      have again := listed_again firstListed rfl middle.2
      cases again.symm.trans secondListed
      exact again
    · apply listed_again firstListed _ last.2
      obtain ⟨post, agent, after, _, _, rfl⟩ := exists_of_withAgent_ok secondListed
      rw [lookup_put, if_neg same]
  rw [← Comparison.ofKeys_swap]
  exact compare_of_listed secondAgain firstAgain

end Workbench

end FleetPatch
