import CosmwasmContracts.Cw20Token.Exactness
import CosmwasmContracts.System.Operations
import CosmwasmContracts.Staking.Isolation
import CosmwasmContracts.Staking.Reconfiguration

/-! What the two contracts are for: a bank. It has one ledger, a book of deposits, a rate, a
lockup and an owner, all plain numbers and names. There are no messages between contracts and
no stored total in it; whether it has the tokens to pay a deposit back it never asks. Of the
machine's limits it keeps three, as conditions of its messages: the product of a reward and the
supply stay below 2^128, and the host accepts the addresses. The composed system decides every
message as the bank does. -/

namespace CosmwasmContracts.System
open Library.CheckedWord Library.FiniteMap Library.TransactionMachine Library.TokenLedger Library.Lockstep
  CosmwasmStd CwOwnable Staking

structure Bank where
  ledger : Ledger Addr
  book : Addr → Option Deposit
  apr : Nat
  lockup : Nat
  ownership : Ownership

namespace Bank

variable (host : Host) (bank : Bank)

def terms : Terms where
  pool := host.staking
  apr := bank.apr
  lockup := bank.lockup
  mints := bank.ledger.minter = some host.staking
  accepts := host.Accepts

/-- A reward can be paid: it is nothing, or the bank may mint and the supply has room. -/
def CanPay (reward : Nat) : Prop :=
  reward = 0 ∨ bank.ledger.minter = some host.staking ∧ bank.ledger.supply + reward < 2 ^ 128

def reward (now : Timestamp) (user : Addr) : Nat :=
  ((bank.book user).map ((bank.terms host).reward now)).getD 0

def Permits (tx : Tx) : Prop :=
  match tx.msg with
  | .token msg =>
      msg.Addressed host.api ∧ msg.Fits bank.ledger.supply ∧
        bank.ledger.Permits (Cw20Token.toEvent ⟨tx.sender, msg⟩)
  | .staking (.stake amount) =>
      host.Accepts tx.sender ∧ host.Accepts host.staking ∧
        bank.ledger.Permits (.transferFrom host.staking tx.sender host.staking amount.toNat)
  | .staking (.unstake amount) =>
      ∃ deposit, bank.book tx.sender = some deposit ∧ amount.toNat ≤ deposit.amount ∧
        (bank.terms host).Matured tx.block.time deposit ∧
        bank.CanPay host ((bank.terms host).reward tx.block.time deposit)
  | .staking .claimRewards =>
      ∃ deposit, bank.book tx.sender = some deposit ∧ (bank.terms host).Matured tx.block.time deposit ∧
        (bank.terms host).reward tx.block.time deposit ≠ 0 ∧
        bank.CanPay host ((bank.terms host).reward tx.block.time deposit)
  | .staking (.changeConfig _ _) => host.ownable.assertOwner bank.ownership tx.sender = .ok ()
  | .staking (.updateOwnership action) =>
      ∃ next, host.ownable.updateOwnership host.api tx.block tx.sender action bank.ownership = .ok next

/-- A reward minted to a depositor. -/
noncomputable def paying (now : Timestamp) (user : Addr) : Ledger Addr :=
  bank.ledger.apply (.mint host.staking user (bank.reward host now user))

/-- The bank under its new ownership, where the owner's package grants one. -/
def reowned : Result OwnershipError Ownership → Bank
  | .ok next => { bank with ownership := next }
  | .error _ => bank

noncomputable def apply (tx : Tx) : Bank :=
  match tx.msg with
  | .token msg => { bank with ledger := bank.ledger.apply (Cw20Token.toEvent ⟨tx.sender, msg⟩) }
  | .staking (.stake amount) =>
      { bank with
        ledger := bank.ledger.apply (.transferFrom host.staking tx.sender host.staking amount.toNat)
        book := Function.update bank.book tx.sender
          (some (Terms.increased tx.block.time amount.toNat (bank.book tx.sender))) }
  | .staking (.unstake amount) =>
      { bank with
        ledger := (bank.paying host tx.block.time tx.sender).apply
          (.transfer host.staking tx.sender amount.toNat)
        book := Function.update bank.book tx.sender
          ((bank.book tx.sender).bind (Terms.decreased tx.block.time amount.toNat)) }
  | .staking .claimRewards =>
      { bank with
        ledger := bank.paying host tx.block.time tx.sender
        book := Function.update bank.book tx.sender
          ((bank.book tx.sender).map fun deposit => { deposit with since := tx.block.time }) }
  | .staking (.changeConfig newApr newLockupPeriod) =>
      { bank with apr := newApr.toNat, lockup := newLockupPeriod.toNat }
  | .staking (.updateOwnership action) =>
      bank.reowned (host.ownable.updateOwnership host.api tx.block tx.sender action bank.ownership)

open Classical in
noncomputable def machine : Machine Bank Tx Unit Unit where
  exec bank tx := if bank.Permits host tx then .ok (bank.apply host tx, ()) else .error ()

theorem exec_eq_ok {host : Host} {bank last : Bank} {tx : Tx} {output : Unit} :
    (machine host).exec bank tx = .ok (last, output) ↔ bank.Permits host tx ∧ last = bank.apply host tx := by
  unfold machine
  by_cases permitted : bank.Permits host tx
  · simp [permitted, eq_comm]
  · simp [permitted]

theorem commits_iff {host : Host} {bank : Bank} {tx : Tx} :
    (machine host).Commits bank tx ↔ bank.Permits host tx := by
  constructor
  · rintro ⟨last, output, decided⟩
    exact (exec_eq_ok.mp decided).1
  · exact fun permitted => ⟨_, (), exec_eq_ok.mpr ⟨permitted, rfl⟩⟩

end Bank

/-- The bank that a world keeps. -/
noncomputable def bankOf (world : World) : Bank where
  ledger := Cw20Token.view world.token
  book := depositOf world.staking
  apr := world.staking.config.apr.toNat
  lockup := world.staking.config.lockupPeriod.toNat
  ownership := world.staking.ownership

section Decided

variable {host : Host} {world : World} {block : BlockInfo} {sender : Addr}

/-- The owner's messages ask nothing of the token. -/
theorem quiet_commits {tx : Tx} {msg : Staking.ExecuteMsg} {after : Staking.Storage} {response : Response}
    (asked : tx.msg = .staking msg)
    (accepted : Staking.execute host.api host.ownable world.staking ⟨tx.block, host.staking⟩ ⟨tx.sender⟩ msg =
      .ok (after, response)) (quiet : response.messages = []) : (system host).Commits world tx := by
  refine ⟨{ world with staking := after }, response, (exec_staking asked).mpr ⟨accepted, ?_⟩⟩
  rw [quiet]
  rfl

theorem changeConfig_decided (newApr newLockupPeriod : Word 64) :
    (system host).Commits world ⟨block, sender, .staking (.changeConfig newApr newLockupPeriod)⟩ ↔
      (bankOf world).Permits host ⟨block, sender, .staking (.changeConfig newApr newLockupPeriod)⟩ := by
  constructor
  · rintro ⟨next, response, commits⟩
    obtain ⟨accepted, _⟩ := (exec_staking rfl).mp commits
    obtain ⟨_, owns, _⟩ := bind_eq_ok.mp accepted
    exact into_eq_ok.mp owns
  · intro owns
    exact quiet_commits rfl (bind_eq_ok.mpr ⟨(), into_eq_ok.mpr owns, rfl⟩) rfl

theorem updateOwnership_decided (action : CwOwnable.Action) :
    (system host).Commits world ⟨block, sender, .staking (.updateOwnership action)⟩ ↔
      (bankOf world).Permits host ⟨block, sender, .staking (.updateOwnership action)⟩ := by
  constructor
  · rintro ⟨next, response, commits⟩
    obtain ⟨accepted, _⟩ := (exec_staking rfl).mp commits
    obtain ⟨ownership, updated, _⟩ := bind_eq_ok.mp accepted
    exact ⟨ownership, into_eq_ok.mp updated⟩
  · rintro ⟨ownership, updated⟩
    exact quiet_commits rfl (bind_eq_ok.mpr ⟨ownership, into_eq_ok.mpr updated, rfl⟩) rfl

variable (healthy : Healthy host world)
include healthy

theorem token_decided (msg : Cw20Token.ExecuteMsg) :
    (system host).Commits world ⟨block, sender, .token msg⟩ ↔
      (bankOf world).Permits host ⟨block, sender, .token msg⟩ := by
  have alone : (system host).Commits world ⟨block, sender, .token msg⟩ ↔
      (Cw20Token.machine host.api).Commits world.token ⟨sender, msg⟩ := by
    constructor
    · rintro ⟨next, response, commits⟩
      exact ⟨next.token, response, ((exec_token rfl).mp commits).1⟩
    · rintro ⟨token, response, accepted⟩
      exact ⟨{ world with token := token }, response, (exec_token rfl).mpr ⟨accepted, rfl⟩⟩
  rw [alone, Cw20Token.commits_iff_ledger healthy.conserved]
  constructor
  · rintro ⟨last, output, decided⟩
    exact (Cw20Token.ledgerMachine_eq_ok.mp decided).1
  · exact fun permitted => ⟨_, (), Cw20Token.ledgerMachine_eq_ok.mpr ⟨permitted, rfl⟩⟩

theorem stake_decided (outside : sender ≠ host.staking) (amount : Uint128) :
    (system host).Commits world ⟨block, sender, .staking (.stake amount)⟩ ↔
      (bankOf world).Permits host ⟨block, sender, .staking (.stake amount)⟩ := by
  refine (stake_commits_iff healthy outside).trans ?_
  constructor
  · rintro ⟨valid, own, covered, allowed⟩
    exact ⟨valid, own, allowed, covered⟩
  · rintro ⟨valid, own, allowed, covered⟩
    exact ⟨valid, own, covered, allowed⟩

theorem unstake_decided (amount : Uint128) :
    (system host).Commits world ⟨block, sender, .staking (.unstake amount)⟩ ↔
      (bankOf world).Permits host ⟨block, sender, .staking (.unstake amount)⟩ := by
  refine (unstake_commits_iff healthy).trans ?_
  constructor
  · rintro ⟨entry, reward, payout, covered, paid⟩
    obtain ⟨deposit, held, same, matured, price⟩ := matured_of_payout host payout
    refine ⟨deposit, held, same ▸ covered, matured, ?_⟩
    rw [← price] at paid
    exact paid
  · rintro ⟨deposit, held, covered, matured, paid⟩
    obtain ⟨entry, reward, payout, same, price⟩ := payout_of_matured held matured
    refine ⟨entry, reward, payout, same ▸ covered, ?_⟩
    rw [price]
    exact paid

theorem claim_decided : (system host).Commits world ⟨block, sender, .staking .claimRewards⟩ ↔
    (bankOf world).Permits host ⟨block, sender, .staking .claimRewards⟩ := by
  refine (claim_commits_iff healthy).trans ?_
  constructor
  · rintro ⟨entry, reward, payout, positive, authority, room⟩
    obtain ⟨deposit, held, _, matured, price⟩ := matured_of_payout host payout
    refine ⟨deposit, held, matured, ?_⟩
    rw [← price] at positive room
    exact ⟨positive, Or.inr ⟨authority, room⟩⟩
  · rintro ⟨deposit, held, matured, positive, paid⟩
    obtain ⟨entry, reward, payout, _, price⟩ := payout_of_matured held matured
    obtain ⟨authority, room⟩ := paid.resolve_left positive
    have due : reward.toNat ≠ 0 ∧ world.token.tokenInfo.totalSupply.toNat + reward.toNat < 2 ^ 128 := by
      rw [price]
      exact ⟨positive, room⟩
    exact ⟨entry, reward, payout, due.1, authority, due.2⟩

theorem bank_decides {tx : Tx} (external : tx.External host) :
    (system host).Commits world tx ↔ (bankOf world).Permits host tx := by
  obtain ⟨block, sender, msg⟩ := tx
  cases msg with
  | token msg => exact token_decided healthy msg
  | staking msg =>
    cases msg with
    | stake amount => exact stake_decided healthy external amount
    | unstake amount => exact unstake_decided healthy amount
    | claimRewards => exact claim_decided healthy
    | changeConfig newApr newLockupPeriod => exact changeConfig_decided newApr newLockupPeriod
    | updateOwnership action => exact updateOwnership_decided action

end Decided

section Kept

variable {host : Host} {world next : World} {block : BlockInfo} {sender : Addr} {response : Response}

/-- A message of a staker rewrites the ledger and the sender's own page. -/
theorem bankOf_page {msg : Staking.ExecuteMsg} {messages : List CosmosMsg} {now : Timestamp}
    {ledger : Ledger Addr} {page : Option Deposit}
    (effect : Effect world.staking now host.staking sender msg next.staking messages)
    (ordinary : ¬msg.Governs) (kept : Cw20Token.view next.token = ledger) (written : depositOf next.staking sender = page) :
    bankOf next =
      { bankOf world with
        ledger := ledger
        book := Function.update (bankOf world).book sender page } := by
  obtain ⟨config, ownership⟩ := effect_settings effect ordinary
  have book : depositOf next.staking = Function.update (depositOf world.staking) sender page := by
    funext other
    by_cases own : other = sender
    · subst own
      rw [Function.update_self, written]
    · rw [Function.update_of_ne own, depositOf, effect_frame effect own]
      rfl
  rw [bankOf, kept, book, config, ownership]
  rfl

theorem bank_reward {entry : StakeInfo} {reward : Uint128} {now : Timestamp}
    (payout : Payout world.staking now sender entry reward) :
    (bankOf world).reward host now sender = reward.toNat := by
  obtain ⟨deposit, held, _, _, price⟩ := matured_of_payout host payout
  change ((depositOf world.staking sender).map _).getD 0 = _
  rw [held]
  exact price

theorem bank_follows {tx : Tx} (commits : (system host).exec world tx = .ok (next, response)) :
    bankOf next = (bankOf world).apply host tx := by
  obtain ⟨block, sender, msg⟩ := tx
  cases msg with
  | token msg =>
    obtain ⟨accepted, same⟩ := (exec_token rfl).mp commits
    rw [bankOf, same, (Cw20Token.execute_refines accepted).2]
    rfl
  | staking msg =>
    obtain ⟨accepted, sent⟩ := (exec_staking rfl).mp commits
    have effect := execute_effect accepted
    cases msg with
    | stake amount =>
      obtain ⟨messages, deposit, _⟩ := stake_effect_deposit effect
      rw [messages] at sent
      exact bankOf_page effect id (dispatch_deposit sent).2 deposit
    | unstake amount =>
      have deposit := unstake_effect_deposit effect
      obtain ⟨entry, reward, payout, _, _, messages⟩ := unstake_effect_messages effect
      rw [messages] at sent
      obtain ⟨middle, minted, paid⟩ := dispatch_append.mp sent
      have rewarded : Cw20Token.view middle = (bankOf world).paying host block.time sender := by
        rw [Bank.paying, bank_reward payout]
        exact dispatch_reward minted
      have settled := (dispatch_withdraw paid).2.2
      rw [rewarded] at settled
      exact bankOf_page effect id settled deposit
    | claimRewards =>
      obtain ⟨entry, reward, payout, _, messages, _, deposit⟩ := claim_effect_deposit effect
      rw [messages] at sent
      have rewarded : Cw20Token.view next.token = (bankOf world).paying host block.time sender := by
        rw [Bank.paying, bank_reward payout]
        exact dispatch_reward sent
      exact bankOf_page effect id rewarded deposit
    | changeConfig newApr newLockupPeriod =>
      rw [effect_silent effect trivial] at sent
      have token : next.token = world.token := (Except.ok.inj sent).symm
      rw [bankOf, changeConfig_effect effect, token]
      rfl
    | updateOwnership action =>
      obtain ⟨ownership, updated, returned⟩ := bind_eq_ok.mp accepted
      rw [into_eq_ok] at updated
      obtain ⟨staking, _⟩ := Prod.mk.inj (Except.ok.inj returned)
      rw [effect_silent effect trivial] at sent
      have token : next.token = world.token := (Except.ok.inj sent).symm
      have reowned : (bankOf world).apply host ⟨block, sender, .staking (.updateOwnership action)⟩ =
          { bankOf world with ownership := ownership } := by
        change (bankOf world).reowned
          (host.ownable.updateOwnership host.api block sender action world.staking.ownership) = _
        rw [updated]
        rfl
      rw [reowned, bankOf, ← staking, token]
      rfl

end Kept

/-- A healthy world and the bank that it keeps. -/
structure Keeps (host : Host) (world : World) (bank : Bank) : Prop where
  same : bank = bankOf world
  healthy : Healthy host world

/-- The composed system is its bank. From the launch of the staking contract, over any external
messages to either contract, exactly those go through that the bank permits, and the two
storages read as the bank does in every state: the ledger, everyone's deposit and its time,
the rate, the lockup and the owner. The bank opens with nobody's deposit in its book. It counts
without bounds, but grants a reward only where its product and the supply it makes stay below
2^128, a mint only where the supply does, and a deposit or a message to the token only where the
host accepts the addresses in it. -/
theorem system_is_its_bank (host : Host) (world : World) (launched : Launched host world) (txs : List Tx)
    (external : ∀ tx ∈ txs, tx.External host) :
    (bankOf world).book = (fun _ => none) ∧
    decisions (system host) world txs = decisions (Bank.machine host) (bankOf world) txs ∧
    (Bank.machine host).run (bankOf world) txs = bankOf ((system host).run world txs) := by
  constructor
  · obtain ⟨msg, response, made, _⟩ := launched.staking
    funext user
    refine depositOf_of_absent ?_
    rw [(instantiate_empty made).1, Map.mayLoad_empty]
  have decided : ∀ world bank tx, Keeps host world bank → tx.External host →
      ((system host).Commits world tx ↔ (Bank.machine host).Commits bank tx) := by
    rintro world bank tx ⟨rfl, healthy⟩ outside
    exact (bank_decides healthy outside).trans Bank.commits_iff.symm
  have kept : ∀ world bank tx next response last output, Keeps host world bank → tx.External host →
      (system host).exec world tx = .ok (next, response) →
        (Bank.machine host).exec bank tx = .ok (last, output) → Keeps host next last := by
    rintro world bank tx next response last output ⟨rfl, healthy⟩ outside commits granted
    refine ⟨?_, exec_healthy healthy outside commits⟩
    rw [(Bank.exec_eq_ok.mp granted).2, bank_follows commits]
  obtain ⟨same, last⟩ := allowed_decisions_rule (system host) (Bank.machine host) (fun tx => tx.External host)
    decided kept ⟨rfl, launched_healthy launched⟩ external
  exact ⟨same, last.same⟩

/-- A deposit, an early withdrawal, new terms by a stranger and by the owner, a withdrawal under
them, one of more than is left, and what is left. -/
def bankDay : List Tx :=
  [⟨Staking.blockAt 100, ⟨"user1"⟩, .staking (.stake (word 100000))⟩,
    ⟨Staking.blockAt 200, ⟨"user1"⟩, .staking (.unstake (word 1))⟩,
    ⟨Staking.blockAt 300, ⟨"user1"⟩, .staking (.changeConfig (word 9000) (word 1))⟩,
    ⟨Staking.blockAt 400, ⟨"owner"⟩, .staking (.changeConfig (word 2000) (word 60))⟩,
    ⟨Staking.blockAt 500, ⟨"user1"⟩, .staking (.unstake (word 60000))⟩,
    ⟨Staking.blockAt 600, ⟨"user1"⟩, .staking (.unstake (word 50000))⟩,
    ⟨Staking.blockAt 600, ⟨"owner"⟩, .token (.mint "user1" (word 7))⟩,
    ⟨Staking.blockAt 700, ⟨"user1"⟩, .staking (.unstake (word 40000))⟩]

theorem system_is_its_bank_bankDay :
    [true, false, false, true, true, false, false, true] =
      decisions (Bank.machine testHost) (bankOf testWorld) bankDay :=
  (system_is_its_bank testHost testWorld testWorld_launched bankDay (by decide)).2.1

end CosmwasmContracts.System
