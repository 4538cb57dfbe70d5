import ContractWatch.Proofs.Distinct
import ContractWatch.Proofs.Monitor.Seen
import Mathlib.Data.Finset.Card

/-!
Any calls one after another. What they answer and leave behind depends on no more than which hashes were marked
before.
-/

namespace ContractWatch.Seen

inductive Call
  | enroll (h : TxHash)
  | mark (h : TxHash)
  | has (h : TxHash)
  deriving DecidableEq

namespace Call

def hash : Call → TxHash
  | enroll h | mark h | has h => h

/-- The hash that is marked after the call, whether it was marked before or not. -/
def marks? : Call → Option TxHash
  | enroll h | mark h => some h
  | has _ => none

/-- The answer of a call, if it is one that answers, and what it leaves behind. -/
def run (s : Seen) : Call → Option Bool × Seen
  | enroll h => ((s.enroll h).1, (s.enroll h).2)
  | mark h => (none, s.mark h)
  | has h => (s.has h, s)

/-- What a call is to answer after the given hashes were marked. -/
def answer (hs : List TxHash) : Call → Option Bool
  | enroll h => some (decide (h ∉ hs))
  | mark _ => none
  | has h => some (decide (h ∈ hs))

end Call

def marked (cs : List Call) : List TxHash := cs.filterMap Call.marks?

def after (s : Seen) (cs : List Call) : Seen := cs.foldl (fun s c => (c.run s).2) s

/-- The calls with their answers. -/
def trace (s : Seen) : List Call → List (Call × Option Bool)
  | [] => []
  | c :: cs => (c, (c.run s).1) :: trace (c.run s).2 cs

theorem marked_concat (cs : List Call) (c : Call) : marked (cs ++ [c]) = marked cs ++ c.marks?.toList := by
  rw [marked, List.filterMap_append]
  cases c <;> rfl

theorem after_concat (s : Seen) (cs : List Call) (c : Call) : s.after (cs ++ [c]) = (c.run (s.after cs)).2 :=
  List.foldl_concat ..

theorem trace_concat (s : Seen) (cs : List Call) (c : Call) :
    s.trace (cs ++ [c]) = s.trace cs ++ [(c, (c.run (s.after cs)).1)] := by
  induction cs generalizing s with
  | nil => rfl
  | cons c' cs ih => rw [List.cons_append, trace, ih, trace, List.cons_append, after, after, List.foldl_cons]

/-! ### From the beginning -/

/-- One call, after some hashes were marked. -/
theorem run_ofHashes (hs : List TxHash) (c : Call) :
    c.run (ofHashes hs.eraseDups) = (c.answer hs, ofHashes (hs ++ c.marks?.toList).eraseDups) := by
  have hhas (h : TxHash) : (ofHashes hs.eraseDups).has h = decide (h ∈ hs) := by
    rw [Bool.eq_iff_iff, has_ofHashes, List.mem_eraseDups, decide_eq_true_iff]
  have hmark (h : TxHash) : (ofHashes hs.eraseDups).mark h = ofHashes (hs ++ [h]).eraseDups := by
    rw [eraseDups_concat]
    split
    · rename_i hm
      exact mark_ofHashes_of_mem (List.mem_eraseDups.2 hm)
    · rename_i hn
      exact mark_ofHashes (mt List.mem_eraseDups.1 hn)
  cases c with
  | enroll h =>
    simp only [Call.run, Call.answer, Call.marks?, enroll_eq, hhas, hmark, Option.toList_some, decide_eq_true_eq]
    by_cases hm : h ∈ hs
    · simp [hm, eraseDups_concat]
    · simp [hm]
  | mark h => simp [Call.run, Call.answer, Call.marks?, hmark]
  | has h => simp [Call.run, Call.answer, Call.marks?, hhas]

theorem after_empty (cs : List Call) : after .empty cs = ofHashes (marked cs).eraseDups := by
  induction cs using List.reverseRecOn with
  | nil => rfl
  | append_singleton cs c ih => rw [after_concat, ih, run_ofHashes, marked_concat]

theorem trace_empty (cs : List Call) :
    trace .empty cs = cs.mapIdx fun i c => (c, c.answer (marked (cs.take i))) := by
  induction cs using List.reverseRecOn with
  | nil => rfl
  | append_singleton cs c ih =>
    rw [trace_concat, after_empty, run_ofHashes, ih, List.mapIdx_concat, List.take_left]
    congr 1
    refine List.mapIdx_eq_mapIdx_iff.2 fun i hi => ?_
    rw [List.take_append_of_le_length (Nat.le_of_lt hi)]

theorem size_after (cs : List Call) : (after .empty cs).size = (marked cs).toFinset.card := by
  have hdistinct : (marked cs).toFinset = (marked cs).eraseDups.toFinset := by
    ext h
    rw [List.mem_toFinset, List.mem_toFinset, List.mem_eraseDups]
  rw [after_empty, size, ofHashes, List.length_map, hdistinct, List.toFinset_card_of_nodup (nodup_eraseDups _)]

/-! ### Hash by hash, after whatever came before -/

variable {s s' : Seen}

theorem run_congr {c : Call} (hs : s.flags.lookup c.hash = s'.flags.lookup c.hash) :
    (c.run s).1 = (c.run s').1 ∧ (c.run s).2.flags.lookup c.hash = (c.run s').2.flags.lookup c.hash := by
  have hhas : s.has c.hash = s'.has c.hash := by rw [has, has, hs]
  cases c with
  | enroll h =>
    rw [Call.hash] at hs hhas
    simp only [Call.run, Call.hash, enroll_eq, hhas]
    split
    · exact ⟨rfl, hs⟩
    · simp [mark, lookup_raise]
  | mark h => simp [Call.run, Call.hash, mark, lookup_raise]
  | has h => exact ⟨congrArg some hhas, hs⟩

theorem lookup_run_of_ne {c : Call} {h : TxHash} (hne : c.hash ≠ h) :
    (c.run s).2.flags.lookup h = s.flags.lookup h := by
  have hmark : (s.mark c.hash).flags.lookup h = s.flags.lookup h := by
    rw [mark, lookup_raise, if_neg (Ne.symm hne)]
  cases c with
  | enroll h' =>
    simp only [Call.run, enroll_eq]
    split
    · rfl
    · exact hmark
  | mark h' => exact hmark
  | has h' => rfl

theorem trace_congr {h : TxHash} {cs : List Call} (hcs : ∀ c ∈ cs, c.hash = h)
    (hs : s.flags.lookup h = s'.flags.lookup h) : s.trace cs = s'.trace cs := by
  induction cs generalizing s s' with
  | nil => rfl
  | cons c cs ih =>
    obtain ⟨hc, hcs⟩ := List.forall_mem_cons.1 hcs
    subst hc
    obtain ⟨hanswer, hlookup⟩ := run_congr hs
    rw [trace, trace, hanswer, ih hcs hlookup]

/-- The calls on one hash get the answers that they would get without all others. -/
theorem trace_filter (s : Seen) (cs : List Call) (h : TxHash) :
    ((s.trace cs).filter fun p => p.1.hash = h) = s.trace (cs.filter fun c => c.hash = h) := by
  induction cs generalizing s with
  | nil => rfl
  | cons c cs ih =>
    by_cases hc : c.hash = h
    · simp only [trace, List.filter_cons, hc, decide_true, if_true, ih]
    · simp only [trace, List.filter_cons, hc, decide_false, Bool.false_eq_true, if_false, ih]
      exact trace_congr (fun c' hc' => of_decide_eq_true (List.mem_filter.1 hc').2) (lookup_run_of_ne hc)

/-- Of any calls, those that enroll a hash find it new exactly if no call before has marked it, and it has been seen
exactly if one has; there are as many flags as marked hashes, all of them up. No call changes the answer of a call on
another hash, and what is left in the end does not depend on the order in which hashes are marked. -/
theorem calls_answered (cs : List Call) :
    trace .empty cs = cs.mapIdx (fun i c => (c, c.answer (marked (cs.take i)))) ∧
    (after .empty cs).size = (marked cs).toFinset.card ∧
    (∀ (s : Seen) h, ((s.trace cs).filter fun p => p.1.hash = h) = s.trace (cs.filter fun c => c.hash = h)) ∧
    (∀ p ∈ (after .empty cs).flags, p.2 = true) ∧
    (∀ h, (after .empty cs).flags.lookup h ≠ some false) ∧
    ∀ cs', (marked cs).Perm (marked cs') →
      (after .empty cs).flags.Perm (after .empty cs').flags ∧
        ∀ h, (after .empty cs).flags.lookup h = (after .empty cs').flags.lookup h := by
  refine ⟨trace_empty cs, size_after cs, fun s => trace_filter s cs, ?_, fun h => ?_, fun cs' hperm => ?_⟩
  · rw [after_empty]
    intro p hp
    obtain ⟨h, -, rfl⟩ := List.mem_map.1 hp
    rfl
  · rw [after_empty, lookup_ofHashes]
    split <;> simp
  · rw [after_empty, after_empty]
    refine ⟨(perm_eraseDups hperm).map _, fun h => ?_⟩
    simp only [lookup_ofHashes, List.mem_eraseDups, hperm.mem_iff]

/-- Two hashes in both orders, one of them marked twice, the other one looked up before and after. -/
theorem calls_answered_swapped :
    let a : TxHash := .zero
    let b : TxHash := ⟨List.replicate 32 0xab, rfl⟩
    let cs : List Call := [.has a, .enroll a, .mark b, .enroll b, .has a]
    let cs' : List Call := [.enroll b, .mark b, .mark a]
    (trace .empty cs).map (·.2) = [some false, some true, none, some false, some true] ∧
      (after .empty cs).size = 2 ∧ (after .empty cs).flags.Perm (after .empty cs').flags := by
  intro a b cs cs'
  obtain ⟨htrace, hsize, -, -, -, horder⟩ := calls_answered cs
  refine ⟨?_, hsize.trans (by decide), (horder cs' (by decide)).1⟩
  rw [htrace]
  decide

end ContractWatch.Seen
