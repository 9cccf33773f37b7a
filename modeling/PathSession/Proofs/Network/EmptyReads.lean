import Mathlib.Data.List.DropRight
import PathSession.Network.Reader

/-!
# When a reader gives up

A reader gives up after so many reads in a row that yielded nothing.  The first one behind octets
is how their end shows, and is not counted.  The account of the reads has a count and a flag; this
file has what they are in terms of the reads.

* `EmptyReads.Call`, `EmptyReads.run?`: what an account is told of reads, and what becomes of it as
  long as none of them exhausts it;
* `EmptyReads.streak`, `EmptyReads.counted`: the reads in a row that yielded nothing, and those of
  them that count;
* `EmptyReads.Keeps`: an account against the reads, with one lemma for each call;
* `EmptyReads.gives_up_iff`: the read that exhausts an account;
* `Reader.keeps_drain`: what a woken reader tells its account, and when it gives up.
-/

namespace PathSession

namespace EmptyReads

/-- What an account is told of a read. -/
inductive Call
  /-- it yielded octets -/
  | dataRead
  /-- it yielded nothing -/
  | wouldBlock
  deriving DecidableEq, Repr

/-- One call, and whether it exhausts the account. -/
def take (e : EmptyReads) : Call → EmptyReads × Bool
  | .dataRead => (e.dataRead, false)
  | .wouldBlock => e.wouldBlock

/-- The account after calls none of which exhausts it. -/
def run? (e : EmptyReads) : List Call → Option EmptyReads
  | [] => some e
  | c :: calls => if (e.take c).2 then none else (e.take c).1.run? calls

theorem limit_new (limit : UInt32) : (new limit).limit.toNat = max limit.toNat 1 := by
  show (if limit ≤ 1 then 1 else limit).toNat = _
  split <;> rename_i h <;> rw [UInt32.le_iff_toNat_le, UInt32.toNat_one] at h
  · rw [UInt32.toNat_one]
    omega
  · omega

@[simp] theorem limit_wouldBlock (e : EmptyReads) : e.wouldBlock.1.limit = e.limit := by
  rw [wouldBlock]
  split <;> rfl

@[simp] theorem drained_wouldBlock (e : EmptyReads) : e.wouldBlock.1.drained = true := by
  rw [wouldBlock]
  split
  · assumption
  · rfl

/-! ### The reads that count -/

/-- How many reads in a row, up to the last one, yielded nothing. -/
def streak (calls : List Call) : Nat := (calls.rtakeWhile (· = .wouldBlock)).length

/-- How many of them count: all if there were no octets yet, and else all but the first. -/
def counted (calls : List Call) : Nat :=
  if .dataRead ∈ calls then streak calls - 1 else streak calls

section Counted

variable (calls : List Call)

@[simp] theorem streak_concat_dataRead : streak (calls ++ [.dataRead]) = 0 := by
  rw [streak, List.rtakeWhile_concat_neg _ _ _ (by decide), List.length_nil]

@[simp] theorem streak_concat_wouldBlock :
    streak (calls ++ [.wouldBlock]) = streak calls + 1 := by
  rw [streak, List.rtakeWhile_concat_pos _ _ _ (by decide), List.length_append]
  rfl

@[simp] theorem counted_concat_dataRead : counted (calls ++ [.dataRead]) = 0 := by
  simp [counted]

/-- Only the first read behind octets is not counted. -/
theorem counted_concat_wouldBlock : counted (calls ++ [.wouldBlock]) =
    if .dataRead ∈ calls ∧ streak calls = 0 then 0 else counted calls + 1 := by
  by_cases hd : .dataRead ∈ calls
  · simp only [counted, streak_concat_wouldBlock, List.mem_append, hd, true_or, if_true, true_and]
    split <;> omega
  · simp [counted, hd]

end Counted

/-! ### An account against the reads -/

/-- An account after calls that did not exhaust it.  It is drained unless the last read yielded
octets, its count is that of the reads that count, and it could take one more. -/
structure Keeps (limit : UInt32) (calls : List Call) (e : EmptyReads) : Prop where
  limit : e.limit.toNat = max limit.toNat 1
  drained : e.drained = false ↔ .dataRead ∈ calls ∧ streak calls = 0
  count : e.count.toNat = counted calls
  below : e.count.toNat < e.limit.toNat

namespace Keeps

variable {limit : UInt32} {calls more : List Call} {e e' : EmptyReads}

theorem new (limit : UInt32) : Keeps limit [] (new limit) where
  limit := limit_new limit
  drained := by simp [EmptyReads.new]
  count := rfl
  below := by
    rw [limit_new]
    show 0 < max limit.toNat 1
    omega

section Facts

variable (h : Keeps limit calls e)
include h

/-- There is room for one more. -/
theorem count_lt_size : e.count.toNat + 1 < UInt32.size :=
  Nat.lt_of_le_of_lt (Nat.succ_le_of_lt h.below) e.limit.toNat_lt

/-- The count goes on with the reads that count, without a wrap. -/
theorem count_wouldBlock : e.wouldBlock.1.count.toNat = counted (calls ++ [.wouldBlock]) := by
  rw [counted_concat_wouldBlock, EmptyReads.wouldBlock]
  cases hd : e.drained with
  | true =>
    have hmore : ¬ (.dataRead ∈ calls ∧ streak calls = 0) := by
      rw [← h.drained, hd]
      exact Bool.noConfusion
    rw [if_neg hmore, ← h.count]
    exact (UInt32.toNat_add ..).trans (Nat.mod_eq_of_lt h.count_lt_size)
  | false =>
    have hfirst := h.drained.mp hd
    rw [if_pos hfirst]
    show e.count.toNat = 0
    rw [h.count, counted, if_pos hfirst.1, hfirst.2]

/-- The first read behind octets finds nothing counted, and so does not exhaust an account. -/
theorem exhausts_eq : e.wouldBlock.2 = decide (e.limit ≤ e.wouldBlock.1.count) := by
  rw [EmptyReads.wouldBlock]
  cases hd : e.drained with
  | true => rfl
  | false =>
    refine (decide_eq_false ?_).symm
    rw [UInt32.le_iff_toNat_le]
    exact Nat.not_le_of_lt h.below

theorem exhausts_iff :
    e.wouldBlock.2 = true ↔ max limit.toNat 1 ≤ counted (calls ++ [.wouldBlock]) := by
  rw [h.exhausts_eq, decide_eq_true_iff, UInt32.le_iff_toNat_le, h.limit, h.count_wouldBlock]

theorem dataRead : Keeps limit (calls ++ [.dataRead]) e.dataRead where
  limit := h.limit
  drained := by simp [EmptyReads.dataRead]
  count := (counted_concat_dataRead calls).symm
  below := Nat.zero_lt_of_lt h.below

theorem wouldBlock (hgoes : e.wouldBlock.2 = false) :
    Keeps limit (calls ++ [.wouldBlock]) e.wouldBlock.1 where
  limit := by rw [limit_wouldBlock, h.limit]
  drained := by simp
  count := h.count_wouldBlock
  below := by
    have hless : ¬ max limit.toNat 1 ≤ counted (calls ++ [.wouldBlock]) := by
      rw [← h.exhausts_iff, hgoes]
      exact Bool.noConfusion
    rw [limit_wouldBlock, h.limit, h.count_wouldBlock]
    exact Nat.lt_of_not_le hless

theorem take {c : Call} (hgoes : (e.take c).2 = false) :
    Keeps limit (calls ++ [c]) (e.take c).1 := by
  cases c with
  | dataRead => exact h.dataRead
  | wouldBlock => exact h.wouldBlock hgoes

end Facts

/-- An account keeps to the reads as long as none of them exhausts it. -/
theorem run (h : Keeps limit calls e) (hr : e.run? more = some e') :
    Keeps limit (calls ++ more) e' := by
  induction more generalizing calls e with
  | nil =>
    cases hr
    rwa [List.append_nil]
  | cons c more ih =>
    rw [run?] at hr
    split at hr
    · cases hr
    · rename_i hgoes
      rw [List.append_cons]
      exact ih (h.take (Bool.not_eq_true _ ▸ hgoes)) hr

end Keeps

/-- **When an account is exhausted.**  After any calls none of which exhausted a new account, the
next read that yields nothing exhausts it exactly if that makes as many counted reads in a row as
the limit says, a limit of zero standing for one.  The count has room for all of them. -/
theorem gives_up_iff {limit : UInt32} {calls : List Call} {e : EmptyReads}
    (h : (new limit).run? calls = some e) :
    (e.wouldBlock.2 = true ↔ max limit.toNat 1 ≤ counted (calls ++ [.wouldBlock])) ∧
      e.count.toNat + 1 < UInt32.size := by
  have hkeeps : Keeps limit calls e := (Keeps.new limit).run h
  exact ⟨hkeeps.exhausts_iff, hkeeps.count_lt_size⟩

/-- With a limit of two, the read right behind octets is not counted, the one after it is the first
that is, and the next one exhausts the account. -/
theorem gives_up_iff_behind_octets :
    let calls : List Call := [.wouldBlock, .dataRead, .wouldBlock, .wouldBlock]
    ∃ e, (new 2).run? calls = some e ∧ counted (calls ++ [.wouldBlock]) = 2 ∧
      e.wouldBlock.2 = true := by
  intro calls
  have hrun : (new 2).run? calls = some { limit := 2, count := 1, drained := true } := by decide
  have hcounted : counted (calls ++ [.wouldBlock]) = 2 := by decide
  refine ⟨_, hrun, hcounted, (gives_up_iff hrun).1.mpr ?_⟩
  rw [hcounted]
  decide

end EmptyReads

/-! ### Readers -/

/-- No stream ends because too many reads yielded nothing. -/
theorem Inbound.not_anomalous_of_ended {i j : Inbound} {room : Nat} {loss : Loss}
    (h : i.read room = (.ended loss, j)) : loss ≠ .anomalous := by
  unfold read at h
  split at h
  · cases h
  · split at h
    · split at h <;> cases h <;> exact Loss.noConfusion
    · cases h

/-- **When a reader gives up.**  A woken reader tells its account of every piece and of every read
that yielded nothing.  It gives the connection up as anomalous exactly if one of these exhausts the
account, and else leaves it as the reads have it, for the next time it is woken. -/
theorem Reader.keeps_drain {limit : UInt32} (r : Reader) (i : Inbound) :
    ∀ {before : List EmptyReads.Call}, EmptyReads.Keeps limit before r.emptyReads →
      ∃ calls : List EmptyReads.Call, calls.count .dataRead = (r.drain i).pieces.length ∧
        if (r.drain i).loss = some .anomalous then
          max limit.toNat 1 ≤ EmptyReads.counted (before ++ calls)
        else EmptyReads.Keeps limit (before ++ calls) (r.drain i).reader.emptyReads := by
  fun_induction drain r i with
  | case1 r i loss rest hread =>
    intro before h
    refine ⟨[], rfl, ?_⟩
    rw [if_neg (by simpa using Inbound.not_anomalous_of_ended hread), List.append_nil]
    exact h
  | case2 r i data rest hread hlt r' =>
    rename_i ih
    intro before h
    obtain ⟨calls, hcount, hcalls⟩ := ih h.dataRead
    refine ⟨.dataRead :: calls, ?_, ?_⟩
    · rw [List.count_cons_self, hcount]
      rfl
    · rw [List.append_cons]
      exact hcalls
  | case3 r i rest hread emptyReads r' =>
    rename_i hcall
    intro before h
    refine ⟨[.wouldBlock], rfl, ?_⟩
    rw [if_pos rfl, ← h.exhausts_iff, hcall]
  | case4 r i rest hread emptyReads exhausted hcall r' hgoes =>
    intro before h
    have hkeeps := h.wouldBlock (by rw [hcall]; simpa using hgoes)
    rw [hcall] at hkeeps
    exact ⟨[.wouldBlock], rfl, hkeeps⟩
  | case5 r i rest hread emptyReads exhausted hcall r' hgoes hending hlt =>
    rename_i ih
    intro before h
    have hkeeps := h.wouldBlock (by rw [hcall]; simpa using hgoes)
    rw [hcall] at hkeeps
    obtain ⟨calls, hcount, hcalls⟩ := ih hkeeps
    refine ⟨.wouldBlock :: calls, by rw [List.count_cons_of_ne (by decide), hcount], ?_⟩
    rw [List.append_cons]
    exact hcalls

end PathSession
