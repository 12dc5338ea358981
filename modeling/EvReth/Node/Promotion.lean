import EvReth.Node.Admission

/-!
# Promotion of admitted transactions

reth keeps the transaction with a sender's lowest nonce pending if the balance that the validator
has reported covers its cost, and parks it otherwise. For a sponsored transaction
`EvTransactionValidator` (`crates/node/src/txpool.rs`) reports the balance of the sponsor, who pays
the gas; the cost that it is compared with contains the values of the calls as well, which the
sender pays.
-/

namespace EvReth

open EStateM

/-- The balance of an account in the latest state, if it can be read. -/
def PoolClient.latestBalance (client : PoolClient) (addr : Address) : Option U256 :=
  match client.latest with
  | .error _ => none
  | .ok reader =>
    match reader addr with
    | .error _ => none
    | .ok account => some (account.getD {}).balance

/-- The sponsor of a transaction in the pool. -/
def EvPooledTransaction.sponsor {Payload : TxType → Type} (crypto : Crypto)
    (pooled : EvPooledTransaction Payload) : Option Address :=
  match pooled.transaction with
  | .ethereum _ => none
  | .evNode tx _ => EvTransactionValidator.recoveredSponsor crypto tx pooled.signer

/-- What reth compares before it keeps the transaction with a sender's lowest nonce pending. -/
def IsPromotable {Payload : TxType → Type} (eth : EthereumSupport Payload) (balance : U256)
    (pooled : EvPooledTransaction Payload) : Prop :=
  (pooled.cost eth).toNat ≤ balance.toNat

instance {Payload : TxType → Type} (eth : EthereumSupport Payload) (balance : U256)
    (pooled : EvPooledTransaction Payload) : Decidable (IsPromotable eth balance pooled) :=
  inferInstanceAs (Decidable (_ ≤ _))

/-- What is relied on of reth: a valid transaction is passed on as it is, and a state that was
opened for it is the latest one. -/
def ValidateOne.PassesOn {Payload : TxType → Type} (validateOne : ValidateOne Payload)
    (client : PoolClient) : Prop :=
  ∀ origin pooled balance stateNonce bytecodeHash transaction propagate authorities state,
    validateOne origin pooled none =
      (.valid balance stateNonce bytecodeHash transaction propagate authorities, state) →
    transaction = pooled ∧
      (state = none ∨ ∃ reader, client.latest = .ok reader ∧ state = some reader)

namespace EvTransactionValidator

variable {Payload : TxType → Type} {self : EvTransactionValidator} {eth : EthereumSupport Payload}
  {crypto : Crypto} {validateOne : ValidateOne Payload} {origin : TransactionOrigin}
  {pooled : EvPooledTransaction Payload} {senderBalance : U256} {state state' : Option StateReader}

/-- A provider that answers leaves the state. -/
theorem liftProvider_eq_ok {α : Type} {x : Except String α} {a : α}
    (h : liftProvider x state = .ok a state') : x = .ok a ∧ state' = state := by
  unfold liftProvider at h
  cases x with
  | error e => cases h
  | ok b =>
    obtain ⟨rfl, rfl⟩ := EStateM.Result.ok.inj h
    exact ⟨rfl, rfl⟩

/-- The state that is read was open, or is the latest one. -/
theorem ensureState_eq_ok {reader : StateReader} (h : self.ensureState state = .ok reader state') :
    state = some reader ∨ state = none ∧ self.client.latest = .ok reader := by
  replace h := bind_get.symm.trans h
  cases state with
  | some reader₀ =>
    obtain ⟨rfl, -⟩ := EStateM.Result.ok.inj h
    exact .inl rfl
  | none =>
    obtain ⟨reader₀, state₁, hlatest, h⟩ := bind_eq_ok h
    obtain ⟨_, state₂, -, h⟩ := bind_eq_ok h
    obtain ⟨rfl, -⟩ := EStateM.Result.ok.inj h
    exact .inr ⟨rfl, (liftProvider_eq_ok hlatest).1⟩

/-- The balance of a sponsor that passes the check is that of the state the pool reads. -/
theorem validateSponsorBalance_eq_ok {sponsor : Address} {gasCost balance : U256}
    (hopen : state = none ∨ ∃ reader, self.client.latest = .ok reader ∧ state = some reader)
    (h : self.validateSponsorBalance sponsor gasCost state = .ok balance state') :
    self.client.latestBalance sponsor = some balance := by
  obtain ⟨reader, state₁, hensure, h⟩ := bind_eq_ok h
  obtain ⟨account, state₂, hread, h⟩ := bind_eq_ok h
  have hlatest : self.client.latest = .ok reader := by
    rcases ensureState_eq_ok hensure with hsome | ⟨-, hlatest⟩
    · rcases hopen with hnone | ⟨reader₀, hlatest, hsome₀⟩
      · cases hnone.symm.trans hsome
      · obtain rfl := Option.some.inj (hsome₀.symm.trans hsome)
        exact hlatest
    · exact hlatest
  have hbalance : (account.getD {}).balance = balance := by
    simp only at h
    split_ifs at h with hshort
    · cases h
    · exact (EStateM.Result.ok.inj h).1
  simp only [PoolClient.latestBalance, hlatest, (liftProvider_eq_ok hread).1, hbalance]

/-- A sender that passes covers the cost. -/
theorem checkSenderOverdraft_eq_ok (h : checkSenderOverdraft eth pooled senderBalance state =
    .ok () state') : IsPromotable eth senderBalance pooled := by
  rw [checkSenderOverdraft_eq] at h
  split_ifs at h with hshort
  exact Nat.le_of_not_lt hshort

/-- The deploy check opens no state. -/
theorem ensureDeployAllowed_eq_ok (h : self.ensureDeployAllowed eth pooled state = .ok () state') :
    state' = state := by
  unfold ensureDeployAllowed at h
  cases hallow : self.deployAllowlist with
  | none =>
    rw [hallow] at h
    exact (EStateM.Result.ok.inj h).2.symm
  | some settings =>
    simp only [hallow] at h
    -- the two kinds of transactions differ in what is checked only
    cases pooled.transaction
    all_goals
      obtain ⟨blockNumber, state₁, hhead, hcheck⟩ := bind_eq_ok h
      obtain ⟨-, rfl⟩ := liftProvider_eq_ok hhead
      generalize checkDeployAllowed _ _ _ _ = verdict at hcheck
      cases verdict with
      | error e => cases hcheck
      | ok _ => exact (EStateM.Result.ok.inj hcheck).2.symm

/-- The check of the shape reads no state. -/
theorem validateEvnodeCalls_eq_ok {tx : EvNodeTransaction}
    (h : validateEvnodeCalls tx state = .ok () state') : state' = state := by
  rw [validateEvnodeCalls_eq] at h
  split_ifs at h
  exact (EStateM.Result.ok.inj h).2.symm

/-- Without a sponsor the sender covers the cost; with one the override is its latest balance. -/
theorem validateEvnodeFunds_eq_ok {tx : EvNodeTransaction} {overrideBalance : Option U256}
    (hopen : state = none ∨ ∃ reader, self.client.latest = .ok reader ∧ state = some reader)
    (h : self.validateEvnodeFunds eth crypto pooled tx senderBalance state =
      .ok overrideBalance state') :
    recoveredSponsor crypto tx pooled.signer = none ∧ overrideBalance = none ∧
        IsPromotable eth senderBalance pooled ∨
      ∃ sponsor balance, recoveredSponsor crypto tx pooled.signer = some sponsor ∧
        overrideBalance = some balance ∧ self.client.latestBalance sponsor = some balance := by
  unfold validateEvnodeFunds at h
  -- without a sponsor's signature the sender is checked, and else the sponsor in its place
  cases hsig : tx.feePayerSignature with
  | none =>
    simp only [hsig] at h
    obtain ⟨_, state₁, hcheck, h⟩ := bind_eq_ok h
    obtain ⟨rfl, -⟩ := EStateM.Result.ok.inj h
    exact .inl ⟨by rw [recoveredSponsor, hsig]; rfl, rfl, checkSenderOverdraft_eq_ok hcheck⟩
  | some signature =>
    cases hrecover : tx.recoverSponsor crypto pooled.signer signature with
    | none =>
      simp only [hsig, hrecover] at h
      cases h
    | some sponsor =>
      simp only [hsig, hrecover] at h
      obtain ⟨balance, state₁, hsponsor, h⟩ := bind_eq_ok h
      have hoverride : some balance = overrideBalance := by
        split_ifs at h
        · cases h
        · exact (EStateM.Result.ok.inj h).1
      exact .inr ⟨sponsor, balance, by rw [recoveredSponsor, hsig]; exact hrecover,
        hoverride.symm, validateSponsorBalance_eq_ok hopen hsponsor⟩

/-- The two ways to be accepted: without a sponsor the balance of the sender covers the whole cost;
with a sponsor the balance of the sponsor is reported in its place. -/
theorem validateEvnode_eq_ok {overrideBalance : Option U256}
    (hopen : state = none ∨ ∃ reader, self.client.latest = .ok reader ∧ state = some reader)
    (h : self.validateEvnode eth crypto pooled senderBalance state = .ok overrideBalance state') :
    pooled.sponsor crypto = none ∧ overrideBalance = none ∧
        IsPromotable eth senderBalance pooled ∨
      ∃ sponsor balance, pooled.sponsor crypto = some sponsor ∧ overrideBalance = some balance ∧
        self.client.latestBalance sponsor = some balance := by
  obtain ⟨_, state₁, hdeploy, hchecks⟩ := bind_eq_ok h
  obtain rfl := ensureDeployAllowed_eq_ok hdeploy
  cases htx : pooled.transaction with
  | ethereum tx =>
    simp only [htx] at hchecks
    obtain ⟨_, state₂, hcheck, hreturn⟩ := bind_eq_ok hchecks
    obtain ⟨rfl, -⟩ := EStateM.Result.ok.inj hreturn
    exact .inl ⟨by rw [EvPooledTransaction.sponsor, htx], rfl, checkSenderOverdraft_eq_ok hcheck⟩
  | evNode tx signature =>
    simp only [htx] at hchecks
    obtain ⟨_, state₂, hcalls, hfunds⟩ := bind_eq_ok hchecks
    obtain rfl := validateEvnodeCalls_eq_ok hcalls
    rw [EvPooledTransaction.sponsor, htx]
    exact validateEvnodeFunds_eq_ok hopen hfunds

/-- An admitted transaction is promotable exactly if it has no sponsor, or if its sponsor, who pays
the gas only, could pay the values of the calls as well. -/
theorem isPromotable_iff (hreth : validateOne.PassesOn self.client) {balance : U256}
    {stateNonce : U64} {bytecodeHash : Option B256} {transaction : EvPooledTransaction Payload}
    {propagate : Bool} {authorities : Option (List Address)}
    (hvalid : self.validateTransaction eth crypto validateOne origin pooled =
      .valid balance stateNonce bytecodeHash transaction propagate authorities) :
    IsPromotable eth balance pooled ↔
      ∀ sponsor, pooled.sponsor crypto = some sponsor → ∃ sponsorBalance,
        self.client.latestBalance sponsor = some sponsorBalance ∧
          (pooled.cost eth).toNat ≤ sponsorBalance.toNat := by
  unfold validateTransaction at hvalid
  cases hone : validateOne origin pooled none with
  | mk outcome state =>
    rw [hone] at hvalid
    cases outcome with
    | invalid transaction e => cases hvalid
    | error hash msg => cases hvalid
    | valid senderBalance stateNonce bytecodeHash transaction propagate authorities =>
      obtain ⟨rfl, hopen⟩ := hreth _ _ _ _ _ _ _ _ _ hone
      simp only at hvalid
      cases hev : self.validateEvnode eth crypto transaction senderBalance state with
      | error e state' =>
        rw [hev] at hvalid
        cases hvalid
      | ok overrideBalance state' =>
        rw [hev] at hvalid
        obtain ⟨rfl, -⟩ := TransactionValidationOutcome.valid.inj hvalid
        -- without a sponsor the balance is the sender's and was checked for all of the cost
        rcases validateEvnode_eq_ok hopen hev with
          ⟨hnone, rfl, hfunds⟩ | ⟨sponsor, balance, hsome, rfl, hlatest⟩
        · refine iff_of_true hfunds fun sponsor hsponsor => ?_
          rw [hnone] at hsponsor
          cases hsponsor
        · rw [hsome]
          constructor
          · rintro hcovers _ ⟨⟩
            exact ⟨balance, hlatest, hcovers⟩
          · intro hcovers
            obtain ⟨sponsorBalance, hread, hle⟩ := hcovers sponsor rfl
            obtain rfl := Option.some.inj (hlatest.symm.trans hread)
            exact hle

open EvTxEnvelope (paymentSender paymentSponsor paymentCrypto unitSignature)

/-- A validator of reth that finds every transaction valid, on the accounts of `w`. -/
def validateOneOn (w : WorldState) : ValidateOne fun _ => Empty := fun _ pooled _ =>
  (.valid (w.load.balance pooled.signer) (w.load.nonce pooled.signer) none pooled true none,
    some (stateReader w))

/-- The validator of the example returns what it is given and opens the latest state. -/
theorem passesOn_validateOneOn {w : WorldState} {client : PoolClient}
    (hlatest : client.latest = .ok (stateReader w)) : (validateOneOn w).PassesOn client := by
  intro origin pooled balance stateNonce bytecodeHash transaction propagate authorities state h
  obtain ⟨hvalid, rfl⟩ := Prod.mk.inj h
  obtain ⟨-, -, -, rfl, -⟩ := TransactionValidationOutcome.valid.inj hvalid
  exact ⟨rfl, .inr ⟨_, hlatest, rfl⟩⟩

/-- `wirePayment` in the pool. -/
def pooledPayment : EvPooledTransaction fun _ => Empty :=
  ⟨.evNode EvNodeTransaction.wirePayment unitSignature, paymentSender⟩

/-- The check of `wirePayment` by the pool, on `paymentWorld`. -/
def admitPayment (sponsorBalance : U256) : TransactionValidationOutcome fun _ => Empty :=
  (paymentValidator sponsorBalance).validateTransaction EthereumSupport.none paymentCrypto
    (validateOneOn (paymentWorld sponsorBalance)) .external pooledPayment

/-- With `60009` wei the sponsor of `wirePayment` could pay its value too. -/
theorem isPromotable_payment :
    admitPayment 60009 = .valid 60009 7 none pooledPayment true none ∧
      IsPromotable EthereumSupport.none 60009 pooledPayment := by
  have hvalid : admitPayment 60009 = .valid 60009 7 none pooledPayment true none := rfl
  have hiff := @isPromotable_iff _ (paymentValidator 60009) EthereumSupport.none paymentCrypto
    (validateOneOn (paymentWorld 60009)) .external pooledPayment (passesOn_validateOneOn rfl)
    _ _ _ _ _ _ hvalid
  refine ⟨hvalid, hiff.mpr fun sponsor hsponsor => ⟨60009, ?_, by decide⟩⟩
  obtain rfl : paymentSponsor = sponsor := Option.some.inj hsponsor
  rfl

/-- With `60000` wei the sponsor can pay the gas of `wirePayment`, and the sender can pay its value;
the pool admits the transaction and does not promote it. -/
theorem parks_affordable_payment :
    Funded paymentCrypto (paymentWorld 60000) EvNodeTransaction.wirePayment paymentSender ∧
      admitPayment 60000 = .valid 60000 7 none pooledPayment true none ∧
      ¬ IsPromotable EthereumSupport.none 60000 pooledPayment := by
  exact ⟨⟨paymentSponsor, rfl, by decide, by decide⟩, rfl, by decide⟩

end EvTransactionValidator

end EvReth
