import HybridTls.Lib.Progress
import HybridTls.System.Lab
import Mathlib.Algebra.BigOperators.Group.Finset.Basic
import Mathlib.Data.Fintype.Basic

/-!
# The lab comes to its end

What is left to be done in the lab: of each turn of a client's schedule the probe, the report,
and what the server has to post of it; the messages that create the run and complete it; and
what the servers have not posted yet (`HybridTls.Lab.left`). Every step takes something off
it, whatever it meets – no message is sent twice, and no failure makes a party try again. So
the parties cannot go on for ever.

They can stop for ever, though. A step is made of calls that return, and no party sets a
timeout: one whose peer stays silent does not make its step. What can be said is that the
parties do not get into each other's way. A client whose calls return ends, whoever else is
blocked; and if all calls return, all clients end and nothing remains to be posted
(`HybridTls.lab_ends`).
-/

namespace HybridTls

open Transition

section Ending

variable {ι : Type}

/-- Whether a party is where it does what an action says. It does it sometime if the calls
return that this takes. -/
def Lab.enabled (s : Lab ι) : Action ι → Bool
  | .create i _ => ((s.clients i).stage matches .starting)
  | .probe i _ _ => ((s.clients i).stage matches .probing (_ :: _))
  | .report i _ => ((s.clients i).stage matches .reporting _ _)
  | .complete i _ => ((s.clients i).stage matches .probing [])
  | .serverPost k _ => k < s.pending.length

/-- The client that an action is one of. -/
def Action.client? : Action ι → Option ι
  | .create i _ => some i
  | .probe i _ _ => some i
  | .report i _ => some i
  | .complete i _ => some i
  | .serverPost _ _ => none

/-- Whether an action is one of the client, and the client is where it does it. -/
def Lab.enabledTo [DecidableEq ι] (i : ι) (s : Lab ι) (a : Action ι) : Bool :=
  s.enabled a && a.client? = some i

/-- A client has come to the end of `main`. -/
def Lab.Finished (s : Lab ι) (i : ι) : Prop := ∃ code, (s.clients i).stage = .finished code

/-- All clients have ended, and nothing is left to be posted. -/
def Lab.Ended (s : Lab ι) : Prop :=
  (∀ i, s.Finished i) ∧ s.pending = []

/-- How many steps a client may still cause. -/
def ClientStage.left (turns : ℕ) : ClientStage ι → ℕ
  | .starting => 3 * turns + 2
  | .probing rest => 3 * rest.length + 1
  | .reporting _ rest => 3 * rest.length + 2
  | .finished _ => 0

variable [DecidableEq ι] {s : Lab ι}

/-- **A client has ended when it cannot go on.** -/
theorem atRest_client_iff {i : ι} : Machine.AtRest (Lab.enabledTo i) s ↔ s.Finished i := by
  constructor
  · intro hrest
    have hcreate := hrest (.create i .smooth)
    have hprobe := hrest (.probe i answered none)
    have hreport := hrest (.report i .smooth)
    have hcomplete := hrest (.complete i .smooth)
    simp only [Lab.enabledTo, Lab.enabled, Action.client?, decide_true, Bool.and_true]
      at hcreate hprobe hreport hcomplete
    rcases hstage : (s.clients i).stage with _ | _ | _ | code
    · simp [hstage] at hcreate
    next rest =>
      rcases rest with _ | ⟨t, rest⟩
      · simp [hstage] at hcomplete
      · simp [hstage] at hprobe
    · simp [hstage] at hreport
    · exact ⟨code, hstage⟩
  · rintro ⟨code, hcode⟩ a
    by_cases ha : a.client? = some i
    · rcases a with ⟨j, p⟩ | ⟨j, env, server⟩ | ⟨j, p⟩ | ⟨j, p⟩ | ⟨k, p⟩
      case serverPost => cases ha
      all_goals
        obtain rfl := Option.some.inj ha
        simp [Lab.enabledTo, Lab.enabled, hcode]
    · simp [Lab.enabledTo, ha]

/-- **The lab has ended when no party can go on.** -/
theorem atRest_iff : Machine.AtRest Lab.enabled s ↔ s.Ended := by
  constructor
  · intro hrest
    refine ⟨fun i => atRest_client_iff.mp fun a => by simp [Lab.enabledTo, hrest a], ?_⟩
    by_contra hpending
    have hpost := hrest (.serverPost 0 .smooth)
    simp [Lab.enabled, List.length_pos_of_ne_nil hpending] at hpost
  · rintro ⟨hfinished, hpending⟩ a
    rcases a with ⟨i, p⟩ | ⟨i, env, server⟩ | ⟨i, p⟩ | ⟨i, p⟩ | ⟨k, p⟩
    case serverPost => simp [Lab.enabled, hpending]
    all_goals
      obtain ⟨code, hcode⟩ := hfinished i
      simp [Lab.enabled, hcode]

end Ending

section Variant

variable {ι : Type} [DecidableEq ι] [Fintype ι] (L : Setup ι)

/-- **What is left to be done.** -/
def Lab.left (s : Lab ι) : ℕ :=
  (∑ i, (s.clients i).stage.left (L.clients i).schedule.length) + s.pending.length

variable {L} {s : Lab ι}

omit [DecidableEq ι] in
theorem left_post {p : Posting} {host : Bytes} {m : Message} :
    (s.post L p host m).2.left L = s.left L := by
  unfold Lab.post
  split <;> rfl

/-- A client goes on, and the others stay where they are. -/
theorem sum_left_update (i : ι) (c : Client ι) :
    (∑ j, (Function.update s.clients i c j).stage.left (L.clients j).schedule.length) +
        (s.clients i).stage.left (L.clients i).schedule.length =
      (∑ j, (s.clients j).stage.left (L.clients j).schedule.length) +
        c.stage.left (L.clients i).schedule.length := by
  rw [← Finset.add_sum_erase _ _ (Finset.mem_univ i),
    ← Finset.add_sum_erase _ (fun j => (s.clients j).stage.left _) (Finset.mem_univ i),
    Function.update_self]
  have hothers : ∀ j ∈ Finset.univ.erase i,
      (Function.update s.clients i c j).stage.left (L.clients j).schedule.length =
        (s.clients j).stage.left (L.clients j).schedule.length := by
    intro j hj
    rw [Function.update_of_ne (Finset.ne_of_mem_erase hj)]
  rw [Finset.sum_congr rfl hothers]
  omega

theorem left_goto (i : ι) (stage : ClientStage ι) :
    (s.goto i stage).left L + (s.clients i).stage.left (L.clients i).schedule.length =
      s.left L + stage.left (L.clients i).schedule.length := by
  have hsum := sum_left_update (L := L) (s := s) i ⟨stage, (s.clients i).failures⟩
  unfold Lab.left
  dsimp only [Lab.goto] at hsum ⊢
  omega

/-- A message is sent, and its sender goes on. -/
theorem left_post_goto {p : Posting} {host : Bytes} {m : Message} {i : ι} {stage : ClientStage ι}
    (hlt : stage.left (L.clients i).schedule.length <
      (s.clients i).stage.left (L.clients i).schedule.length) :
    ((s.post L p host m).2.goto i stage).left L < s.left L := by
  have hgoto := left_goto (L := L) (s := (s.post L p host m).2) i stage
  have hstage : (s.post L p host m).2.clients = s.clients := by
    unfold Lab.post
    split <;> rfl
  rw [left_post, hstage] at hgoto
  omega

/-- A probe is made: what it adds to the reports and the posts has been left for it. -/
theorem left_probed {x : Probe ι} {t : Turn} {rest : List Turn}
    (hstage : (s.clients x.client).stage = .probing (t :: rest)) :
    (s.probed x rest).left L < s.left L := by
  have hpost : x.toPost.toList.length ≤ 1 := by cases x.toPost <;> simp
  have hpending : (s.probed x rest).pending.length =
      s.pending.length + x.toPost.toList.length := by
    simp [Lab.probed]
  have hbefore : (s.clients x.client).stage.left (L.clients x.client).schedule.length =
      3 * rest.length + 4 := by
    rw [hstage]
    simp only [ClientStage.left, List.length_cons]
    omega
  have hbehind : ((s.probed x rest).clients x.client).stage.left
      (L.clients x.client).schedule.length ≤ 3 * rest.length + 2 := by
    simp only [Lab.probed, Function.update_self]
    by_cases hrecord : x.record = true
    · rw [if_pos hrecord]
      exact le_rfl
    · rw [if_neg hrecord]
      exact Nat.le_succ _
  have hsum := sum_left_update (L := L) (s := s) x.client ((s.probed x rest).clients x.client)
  have hclients : Function.update s.clients x.client ((s.probed x rest).clients x.client) =
      (s.probed x rest).clients := by
    simp [Lab.probed]
  rw [hclients] at hsum
  unfold Lab.left
  omega

/-- **Every step takes something off what is left.** -/
theorem left_step_lt {a : Action ι} (h : s.enabled a) : (s.step L a).left L < s.left L := by
  rcases a with ⟨i, p⟩ | ⟨i, env, server⟩ | ⟨i, p⟩ | ⟨i, p⟩ | ⟨k, p⟩
  case create =>
    rcases hstage : (s.clients i).stage with _ | rest | ⟨x, rest⟩ | code
    case starting =>
      simp only [Lab.step, hstage]
      refine left_post_goto ?_
      rw [hstage]
      split <;> simp only [ClientStage.left] <;> omega
    all_goals simp [Lab.enabled, hstage] at h
  case probe =>
    rcases hstage : (s.clients i).stage with _ | ⟨_ | ⟨t, rest⟩⟩ | ⟨x, rest⟩ | code
    case probing.cons =>
      simp only [Lab.step, hstage]
      exact left_probed hstage
    all_goals simp [Lab.enabled, hstage] at h
  case report =>
    rcases hstage : (s.clients i).stage with _ | rest | ⟨x, rest⟩ | code
    case reporting =>
      have hlt : (.probing rest : ClientStage ι).left (L.clients i).schedule.length <
          (s.clients i).stage.left (L.clients i).schedule.length := by
        rw [hstage]
        simp only [ClientStage.left]
        omega
      simp only [Lab.step, hstage]
      cases x.result.posted with
      | none =>
        have hgoto := left_goto (L := L) (s := s) i (.probing rest)
        rw [Option.elim_none]
        omega
      | some v => exact left_post_goto hlt
    all_goals simp [Lab.enabled, hstage] at h
  case complete =>
    rcases hstage : (s.clients i).stage with _ | ⟨_ | ⟨t, rest⟩⟩ | ⟨x, rest⟩ | code
    case probing.nil =>
      simp only [Lab.step, hstage]
      refine left_post_goto ?_
      rw [hstage]
      simp only [ClientStage.left]
      omega
    all_goals simp [Lab.enabled, hstage] at h
  case serverPost =>
    have hk : k < s.pending.length := by simpa [Lab.enabled] using h
    simp only [Lab.step, List.getElem?_eq_getElem hk, left_post]
    simp only [Lab.left, List.length_eraseIdx, hk, if_true]
    omega

/-- What is left is a variant of the lab. -/
theorem variant_left (L : Setup ι) : (lab L).Variant Lab.enabled (Lab.left L) where
  step_lt _ _ h := left_step_lt h
  step_eq s a h := by
    rcases a with ⟨i, p⟩ | ⟨i, env, server⟩ | ⟨i, p⟩ | ⟨i, p⟩ | ⟨k, p⟩
    case serverPost =>
      have hk : s.pending.length ≤ k := by simpa [Lab.enabled] using h
      simp [lab, Lab.step, List.getElem?_eq_none hk]
    all_goals
      rcases hstage : (s.clients i).stage with _ | ⟨_ | ⟨t, rest⟩⟩ | ⟨x, rest⟩ | code <;>
        simp [Lab.enabled, lab, Lab.step, hstage] at h ⊢

/-- The turns of a schedule. -/
theorem length_schedule (options : ClientOptions) :
    options.schedule.length = 3 * (options.warmup.toNat + options.iterations.toNat) := by
  have hwarmUp : (warmUpTurns options.warmup.toNat).length = 3 * options.warmup.toNat := by
    simp [warmUpTurns, List.length_flatMap, endpoints, Nat.mul_comm]
  rw [ClientOptions.schedule, List.length_append, hwarmUp, length_measuredTurns]
  omega

/-- All that is left when the lab is started. -/
theorem left_init (L : Setup ι) : (lab L).init.left L =
    ∑ i, (9 * ((L.clients i).warmup.toNat + (L.clients i).iterations.toNat) + 2) := by
  simp only [Lab.left, lab, List.length_nil, Nat.add_zero, ClientStage.left, length_schedule]
  refine Finset.sum_congr rfl fun i _ => ?_
  omega

/-- **The lab comes to its end.** Whatever the parties meet, and in whatever order they go on,
they take no more steps than nine for each iteration of each client, and two for each client;
so from some time on the lab does not change any more. A client whose calls return sometime
has ended by then, even if other parties are blocked for ever. If as long as there is a party
that can go on one does so sometime, all clients have ended, and nothing is left to be posted.
And every state has a continuation to such an end. -/
theorem lab_ends (L : Setup ι) (actions : ℕ → Action ι) :
    (∀ n, Nat.count (fun k => ((lab L).stateAt actions k).enabled (actions k)) n ≤
      ∑ i, (9 * ((L.clients i).warmup.toNat + (L.clients i).iterations.toNat) + 2)) ∧
    (∃ N, ∀ n, N ≤ n → (lab L).stateAt actions n = (lab L).stateAt actions N) ∧
    (∀ i, (lab L).Fair (Lab.enabledTo i) actions → ∃ N, ∀ n, N ≤ n →
      ((lab L).stateAt actions n).Finished i) ∧
    ((lab L).Fair Lab.enabled actions → ∃ N, ∀ n, N ≤ n →
      ((lab L).stateAt actions n).Ended) ∧
    ∀ s : Lab ι, ∃ rest, ((lab L).runFrom s rest).Ended := by
  have hV := variant_left L
  refine ⟨fun n => ?_, ?_, fun i hfair => ?_, fun hfair => ?_, fun s => ?_⟩
  · rw [← left_init]
    exact hV.count_le actions n
  · obtain ⟨N, -, hN⟩ := hV.exists_forall_ge actions 0
    exact ⟨N, fun n hn => hV.stateAt_eq_of_forall_ge hN hn⟩
  · obtain ⟨N, hN⟩ := hV.exists_atRest_part (fun s a h => (Bool.and_eq_true_iff.mp h).1) hfair
    exact ⟨N, fun n hn => atRest_client_iff.mp (hN n hn)⟩
  · obtain ⟨N, hN⟩ := hV.exists_atRest hfair
    exact ⟨N, fun n hn => atRest_iff.mp (hN n hn)⟩
  · obtain ⟨rest, hrest⟩ := hV.exists_runFrom_atRest s
    exact ⟨rest, atRest_iff.mp hrest⟩

end Variant

end HybridTls
