import CosmwasmContracts.Staking.Payouts

/-! No second is paid twice. The windows for which an address is paid follow one
another without overlap, at least a lockup apart, so that all it is ever paid fits
under its largest stake at the largest rate over the time since its first deposit. -/

namespace CosmwasmContracts.Staking
open Library.CheckedWord Library.FiniteMap Library.TransactionMachine Library.TimedHistory
  CosmwasmStd CwOwnable

/-- The window of a payout in whole seconds, with the lockup in force when it was made. -/
structure Payment where
  opens : Nat
  closes : Nat
  lockup : Nat
  deriving DecidableEq

def payments (user : Addr) (before : Storage) (tx : Tx) (_ : Response) : List Payment :=
  if tx.sender = user ∧ tx.msg.Pays then
    match before.stakes.mayLoad user with
    | some entry =>
        [{ opens := entry.stakeTime.seconds.toNat,
           closes := seconds tx,
           lockup := before.config.lockupPeriod.toNat }]
    | none => []
  else []

/-- Two payouts of one address in order: the windows meet at most in an endpoint, and
the later one comes a lockup after the earlier one. -/
def Payment.Follows (earlier later : Payment) : Prop :=
  earlier.closes ≤ later.opens ∧ earlier.closes + later.lockup ≤ later.closes

/-- Payouts in order, the last of them closed by the second `frontier`. -/
structure Settled (payments : List Payment) (frontier : Nat) : Prop where
  spans : ∀ payment ∈ payments, payment.opens ≤ payment.closes
  closed : ∀ payment ∈ payments, payment.closes ≤ frontier
  follows : payments.Pairwise Payment.Follows

namespace Settled

variable {payments : List Payment} {frontier : Nat}

theorem nil (frontier : Nat) : Settled [] frontier := ⟨by simp, by simp, by simp⟩

theorem advance (settled : Settled payments frontier) {later : Nat} (ordered : frontier ≤ later) :
    Settled payments later :=
  ⟨settled.spans, fun payment member => (settled.closed payment member).trans ordered, settled.follows⟩

/-- The next payout opens where everything before it is closed. -/
theorem pay {payment : Payment} (settled : Settled payments payment.opens)
    (spans : payment.opens ≤ payment.closes) (locked : payment.opens + payment.lockup ≤ payment.closes) :
    Settled (payments ++ [payment]) payment.closes := by
  refine ⟨?_, ?_, ?_⟩
  · intro other member
    rcases List.mem_append.mp member with old | latest
    · exact settled.spans other old
    · rw [List.mem_singleton.mp latest]
      exact spans
  · intro other member
    rcases List.mem_append.mp member with old | latest
    · exact (settled.closed other old).trans spans
    · rw [List.mem_singleton.mp latest]
  · rw [List.pairwise_append]
    refine ⟨settled.follows, List.pairwise_singleton _ _, ?_⟩
    intro other old last latest
    rw [List.mem_singleton.mp latest]
    have before := settled.closed other old
    exact ⟨before, by omega⟩

end Settled

def wholeSeconds (nanos : Nat) : Nat := nanos / 1000000000

theorem wholeSeconds_mono {first second : Nat} (ordered : first ≤ second) :
    wholeSeconds first ≤ wholeSeconds second := Nat.div_le_div_right ordered

theorem resumes_le_resumes (storage : Storage) (user : Addr) {now later : Nat}
    (ordered : now ≤ later) : resumes storage now user ≤ resumes storage later user := by
  unfold resumes
  split
  next => exact le_rfl
  next => exact ordered

theorem resumes_le_wholeSeconds {storage : Storage} {now : Nat} (times : TimesReached storage now)
    (user : Addr) : resumes storage (wholeSeconds now) user ≤ wholeSeconds now := by
  unfold resumes
  split
  next entry present => exact wholeSeconds_mono (times user entry present)
  next => exact le_rfl

section Step

variable {before next : Storage} {now : Timestamp} {contract sender : Addr} {msg : ExecuteMsg}
variable {messages : List CosmosMsg} {user : Addr} {earlier : Nat}

theorem resumes_quiet (effect : Effect before now contract sender msg next messages)
    (quiet : ¬(sender = user ∧ msg.Pays)) (ordered : earlier ≤ now.nanos.toNat) :
    resumes before (wholeSeconds earlier) user ≤ resumes next now.seconds.toNat user := by
  have later : wholeSeconds earlier ≤ now.seconds.toNat := wholeSeconds_mono ordered
  obtain ⟨_, gone, timed⟩ := effect_quiet effect quiet
  cases stored : next.stakes.mayLoad user with
  | none =>
    rw [resumes_of_absent _ stored, resumes_of_absent _ (gone stored)]
    exact later
  | some kept =>
    rw [resumes_of_present _ stored]
    rcases timed kept stored with ⟨entry, old, same⟩ | ⟨absent, same⟩
    · rw [resumes_of_present _ old, same]
    · rw [resumes_of_absent _ absent, same]
      exact later

/-- The second an address is paid up to never moves back. -/
theorem resumes_advances (effect : Effect before now contract sender msg next messages)
    (ordered : earlier ≤ now.nanos.toNat) :
    resumes before (wholeSeconds earlier) user ≤ resumes next now.seconds.toNat user := by
  by_cases paid : sender = user ∧ msg.Pays
  · obtain ⟨rfl, pays⟩ := paid
    obtain ⟨_, _, payout, _, restarted⟩ := effect_payment effect pays
    rw [resumes_restarted restarted, resumes_of_present _ payout.present]
    exact payout.started
  · exact resumes_quiet effect paid ordered

end Step

/-- The second up to which an address has been paid, or from which it now accrues. -/
def frontier (genesis : Nat) (user : Addr) (txs : List Tx) (storage : Storage) : Nat :=
  resumes storage (wholeSeconds (reached nanos genesis txs)) user

theorem frontier_snoc (genesis : Nat) (user : Addr) (txs : List Tx) (tx : Tx) (storage : Storage) :
    frontier genesis user (txs ++ [tx]) storage = resumes storage (seconds tx) user := by
  unfold frontier
  rw [reached_snoc]
  rfl

variable (api : Api) (ownable : Package) (contract : Addr) {start : Storage} {genesis : Nat}

/-- The clocks never run ahead of the block, whoever they belong to. -/
theorem run_times (empty : start.stakes = ∅) {txs : List Tx} (ordered : Ordered nanos genesis txs) :
    TimesReached ((machine api ownable contract).run start txs) (reached nanos genesis txs) := by
  apply ordered_rule _ nanos
    (motive := fun txs storage => TimesReached storage (reached nanos genesis txs)) genesis start ?_ ?_ ?_
    ordered
  · intro holder entry present
    rw [empty, Map.mayLoad_empty] at present
    cases present
  · intro txs tx next response later times commits
    rw [reached_snoc]
    exact effect_times (commit_effect commits) times later
  · intro txs tx reason later times fails
    rw [reached_snoc]
    exact fun holder entry present => (times holder entry present).trans later

/-- The payouts of an address over any history at ordered times. -/
theorem run_settled (start : Storage) (user : Addr) {txs : List Tx} (ordered : Ordered nanos genesis txs) :
    Settled ((machine api ownable contract).observe (payments user) start txs)
      (frontier genesis user txs ((machine api ownable contract).run start txs)) := by
  apply ordered_rule _ nanos
    (motive := fun txs storage =>
      Settled ((machine api ownable contract).observe (payments user) start txs)
        (frontier genesis user txs storage)) genesis start (Settled.nil _) ?_ ?_ ordered
  · intro txs tx next response later settled commits
    have effect := commit_effect commits
    rw [Machine.observe_snoc_ok _ _ commits, frontier_snoc]
    by_cases paid : tx.sender = user ∧ tx.msg.Pays
    · obtain ⟨rfl, pays⟩ := paid
      obtain ⟨entry, reward, payout, _, restarted⟩ := effect_payment effect pays
      have opening : frontier genesis tx.sender txs ((machine api ownable contract).run start txs) =
          entry.stakeTime.seconds.toNat := resumes_of_present _ payout.present
      have closing : resumes next (seconds tx) tx.sender = seconds tx := resumes_restarted restarted
      have started : entry.stakeTime.seconds.toNat ≤ seconds tx := payout.started
      have unlocked : ((machine api ownable contract).run start txs).config.lockupPeriod.toNat ≤
          seconds tx - entry.stakeTime.seconds.toNat := payout.unlocked
      have locked : entry.stakeTime.seconds.toNat +
          ((machine api ownable contract).run start txs).config.lockupPeriod.toNat ≤ seconds tx := by omega
      rw [opening] at settled
      rw [payments, if_pos ⟨rfl, pays⟩, payout.present, closing]
      exact settled.pay started locked
    · rw [payments, if_neg paid, List.append_nil]
      exact settled.advance (resumes_quiet effect paid later)
  · intro txs tx reason later settled fails
    rw [Machine.observe_snoc_error _ _ fails, frontier_snoc]
    exact settled.advance (resumes_le_resumes _ user (wholeSeconds_mono later))

end CosmwasmContracts.Staking
