import EvReth.Node.SponsorFunds
import EvReth.Sponsor.Delivery
import Mathlib.Algebra.Group.Action.Defs
import Mathlib.Algebra.Order.BigOperators.Group.List

/-!
# What the service pays for

The key of the service signs hashes, and the node takes a sponsor's signature for its consent to pay
(`crates/ev-primitives/src/tx.rs`). As long as nobody else signs with this key, and no two of the
texts that are signed have one hash, the service pays on the chain only for transactions that it was
asked to sponsor and that its policy approves of, for each of its signatures at most once, and so
for each at most what the limits of the policy allow. What frames take from its account, as a burn
of the mint precompile does, is counted separately.
-/

namespace EvReth

variable {Payload : TxType → Type}

/-- The signatures that the node looks at in a transaction, with the texts that they are for. -/
def EvEvmConfig.signatures (config : EvEvmConfig Payload) :
    Recovered Payload → List (Signature × Bytes)
  | ⟨.ethereum tx, _⟩ => [(tx.signature, tx.encodeForSigning config.eth.signingFields)]
  | ⟨.evNode tx signature, signer⟩ =>
    (signature, tx.executorPreimage) ::
      tx.feePayerSignature.toList.map fun sponsor => (sponsor, tx.sponsorPreimage signer)

/-- The hash that the sponsor of a transaction has to sign. -/
def EvEvmConfig.sponsorHash (config : EvEvmConfig Payload) : Recovered Payload → B256
  | ⟨.ethereum _, _⟩ => 0
  | ⟨.evNode tx _, signer⟩ => tx.sponsorSigningHash config.crypto signer

/-- A sponsor signs the hash of the transaction for its executor. -/
theorem EvEvmConfig.sponsorHash_evNode {config : EvEvmConfig Payload}
    {recovered : Recovered Payload} {tx : EvNodeTransaction} {signature : Signature}
    (h : recovered.tx = .evNode tx signature) :
    config.sponsorHash recovered = tx.sponsorSigningHash config.crypto recovered.signer := by
  obtain ⟨_, signer⟩ := recovered
  subst h
  rfl

/-- The environment of an EvNode transaction is made from its fields and its executor. -/
theorem EvEvmConfig.txEnv_evNode (config : EvEvmConfig Payload) {recovered : Recovered Payload}
    {tx : EvNodeTransaction} {signature : Signature} (h : recovered.tx = .evNode tx signature) :
    config.txEnv recovered =
      .fromEvNode (·.recoverSponsor config.crypto) tx recovered.signer := by
  rw [EvEvmConfig.txEnv, h, EvTxEnv.fromRecoveredTx]

/-- A standard transaction is not signed as a sponsor signs. -/
theorem EthereumTransaction.encodeForSigning_ne_cons
    (signingFields : (ty : TxType) → Payload ty → Bytes) (tx : EthereumTransaction Payload)
    (text : Bytes) : tx.encodeForSigning signingFields ≠ evnodeSponsorDomain :: text := by
  intro h
  obtain ⟨ty, payload, signature⟩ := tx
  obtain ⟨b, rest, hlist, hb⟩ := Rlp.exists_encodeList_eq_cons (signingFields ty payload)
  have hlt : evnodeSponsorDomain.toNat < 0xC0 := by decide
  cases ty with
  -- a legacy transaction begins with a list header, any other with its type
  | legacy =>
    obtain rfl : b = evnodeSponsorDomain := (List.cons.inj (hlist.symm.trans h)).1
    omega
  | eip2930 | eip1559 | eip4844 | eip7702 =>
    have htype := (List.cons.inj h).1
    exact absurd htype (by decide)

/-- A standard transaction shows the signature of its text. -/
theorem EvEvmConfig.mem_signatures_ethereum {config : EvEvmConfig Payload}
    {recovered : Recovered Payload} {tx : EthereumTransaction Payload}
    (h : recovered.tx = .ethereum tx) :
    (tx.signature, tx.encodeForSigning config.eth.signingFields) ∈
      config.signatures recovered := by
  obtain ⟨_, signer⟩ := recovered
  subst h
  exact List.mem_singleton_self _

/-- An EvNode transaction shows the signature of the executor's text. -/
theorem EvEvmConfig.mem_signatures_evNode {config : EvEvmConfig Payload}
    {recovered : Recovered Payload} {tx : EvNodeTransaction} {signature : Signature}
    (h : recovered.tx = .evNode tx signature) :
    (signature, tx.executorPreimage) ∈ config.signatures recovered := by
  obtain ⟨_, signer⟩ := recovered
  subst h
  exact List.mem_cons_self

/-- The sponsor of a transaction has signed its sponsor's text. -/
theorem EvEvmConfig.sponsor_eq_some {config : EvEvmConfig Payload} {recovered : Recovered Payload}
    {s : Address} (h : (config.txEnv recovered).sponsor = some s) :
    ∃ tx signature sponsor, recovered.tx = .evNode tx signature ∧
      (sponsor, tx.sponsorPreimage recovered.signer) ∈ config.signatures recovered ∧
      tx.recoverSponsor config.crypto recovered.signer sponsor = some s := by
  obtain ⟨tx | ⟨tx, signature⟩, signer⟩ := recovered
  · cases h
  · cases hsignature : tx.feePayerSignature with
    | none =>
      rw [EvEvmConfig.txEnv, EvTxEnv.fromRecoveredTx, EvTxEnv.fromEvNode, hsignature] at h
      cases h
    -- the node has recovered the sponsor before it has built the environment
    | some sponsor =>
      refine ⟨tx, signature, sponsor, rfl, ?_, ?_⟩
      · rw [EvEvmConfig.signatures, hsignature]
        exact List.mem_cons_of_mem _ List.mem_cons_self
      · rw [EvEvmConfig.txEnv, EvTxEnv.fromRecoveredTx, EvTxEnv.fromEvNode, hsignature] at h
        simp only at h
        cases hrecover : tx.recoverSponsor config.crypto signer sponsor with
        | none =>
          rw [hrecover] at h
          cases h
        | some s' =>
          rw [hrecover] at h
          exact h

end EvReth

namespace EvReth.Sponsor

open Clients Run Graded EvBlockExecutor

/-! ## What the service has signed -/

/-- A hash is signed if the log says so. -/
theorem signed_mem_of_mem_signedHashes {log : List Event} {hash : B256}
    (h : hash ∈ signedHashes log) : .signed hash ∈ log := by
  obtain ⟨e, he, heq⟩ := List.mem_filterMap.mp h
  match e, heq with
  | .signed hash', heq =>
    obtain rfl := Option.some.inj heq
    exact he

namespace SponsorService

variable (service : SponsorService) {Payload : TxType → Type} (asked : Request → Prop)

/-- viem returns the addresses that it recovers with all their digits. -/
def ReturnsAddresses : Prop :=
  ∀ hash signature hex, service.viemCrypto.recoverAddress hash signature = .ok hex →
    ∃ a : Address, hex = wordHex a

/-- The service consents to pay for an intent by signing the text. -/
structure Consents (intent : SponsorableIntent) (executor : Address) (text : Bytes) : Prop where
  requested : ∃ rawTx, service.Asked asked rawTx ∧ service.Requests rawTx intent
  approved : service.Approves intent
  executor_eq : intent.executorAddress = wordHex executor
  text_eq : (sponsorSigningPreimage service.viem intent.tx (wordHex executor)).map Hex.toBytes =
    .ok text

/-- The transactions of a chain have been received with their signers, the key of the address has
signed for the service only, and what the service may sign has the hash of no other text that has
been signed in the chain. -/
structure KeepsKey (config : EvEvmConfig Payload) (s : Address) (log : List Event)
    (steps : List (BlockTransition Payload)) : Prop where
  agrees : service.viemCrypto.Agrees config.crypto
  returnsAddresses : service.ReturnsAddresses
  caller_eq : ∀ tx sender, (config.eth.toTxEnv tx sender).caller = sender
  signer : ∀ t ∈ steps,
    t.input.tx.recoverSigner config.crypto config.eth.signingFields = some t.input.signer
  size : ∀ t ∈ steps, ∀ tx signature, t.input.tx = .evNode tx signature →
    tx.encode.length < 2 ^ 64
  unforged : ∀ t ∈ steps, ∀ signature text, (signature, text) ∈ config.signatures t.input →
    signature.recoverAddressFromPrehash config.crypto (config.crypto.keccak256 text) = some s →
      config.crypto.keccak256 text ∈ signedHashes log
  collisionFree : ∀ t ∈ steps, ∀ signature text, (signature, text) ∈ config.signatures t.input →
    ∀ intent executor text', service.Consents asked intent executor text' →
      config.crypto.keccak256 text' = config.crypto.keccak256 text → text' = text

/-- The service was asked for the transaction of a step, approves of its fields and has signed for
it. -/
def SignedFor (config : EvEvmConfig Payload) (log : List Event) (t : BlockTransition Payload) :
    Prop :=
  ∃ nodeTx signature intent, t.input.tx = .evNode nodeTx signature ∧
    service.Consents asked intent t.input.signer (nodeTx.sponsorPreimage t.input.signer) ∧
    intent.tx.Matches nodeTx ∧
    nodeTx.sponsorSigningHash config.crypto t.input.signer ∈ signedHashes log

variable {service asked} {config : EvEvmConfig Payload} {s : Address} {log : List Event}
  {steps : List (BlockTransition Payload)} {t t' : BlockTransition Payload}

/-- Every event of the log is justified by those before it. -/
theorem Justified.allowed (h : service.Justified asked log) {e : Event} (he : e ∈ log) :
    ∃ before, service.Allowed asked before e := by
  obtain ⟨before, after, rfl⟩ := List.append_of_mem he
  exact ⟨before, h before e ⟨after, by rw [List.append_assoc, List.singleton_append]⟩⟩

/-- The service signs what it consents to. -/
theorem consents_of_signed (hkeccak : service.viemCrypto.keccak256 = config.crypto.keccak256)
    (haddresses : service.ReturnsAddresses) (hlog : service.Justified asked log) {hash : B256}
    (h : hash ∈ signedHashes log) : ∃ intent executor text,
      service.Consents asked intent executor text ∧ config.crypto.keccak256 text = hash := by
  obtain ⟨before, hallowed⟩ := hlog.allowed (signed_mem_of_mem_signedHashes h)
  cases hallowed with
  | @signed rawTx intent _ hasked hrequests happroves hhash =>
    -- the executor has been recovered by viem
    have hrecover := happroves.executor
    simp only [recoverExecutor, Except.bind_eq_ok_iff] at hrecover
    obtain ⟨_, -, _, -, hrecover⟩ := hrecover
    obtain ⟨executor, hexecutor⟩ := haddresses _ _ _ hrecover
    rw [SigningHash, computeSponsorSigningHash, Except.map_eq_ok_iff, hkeccak] at hhash
    obtain ⟨hex, hpreimage, rfl⟩ := hhash
    rw [hexecutor] at hpreimage
    exact ⟨intent, executor, Hex.toBytes hex, ⟨⟨rawTx, hasked, hrequests⟩, happroves, hexecutor,
      by rw [hpreimage]; rfl⟩, rfl⟩

/-- The service consents to texts for sponsors only. -/
theorem Consents.exists_eq_cons {intent : SponsorableIntent} {executor : Address} {text : Bytes}
    (h : service.Consents asked intent executor text) :
    ∃ rest, text = evnodeSponsorDomain :: rest := by
  have htext := h.text_eq
  rw [toBytes_sponsorSigningPreimage] at htext
  exact ⟨_, (Except.ok.inj htext).symm⟩

namespace KeepsKey

/-- A signature of the service in a chain is for a text that it consents to. -/
theorem consents (h : service.KeepsKey asked config s log steps)
    (hlog : service.Justified asked log) (ht : t ∈ steps) {signature : EvReth.Signature}
    {text : Bytes}
    (hmem : (signature, text) ∈ config.signatures t.input)
    (hrecover : signature.recoverAddressFromPrehash config.crypto
      (config.crypto.keccak256 text) = some s) :
    ∃ intent executor, service.Consents asked intent executor text := by
  have hsigned := h.unforged t ht signature text hmem hrecover
  obtain ⟨intent, executor, text', hconsents, hhash⟩ :=
    consents_of_signed h.agrees.keccak256_eq h.returnsAddresses hlog hsigned
  obtain rfl := h.collisionFree t ht signature text hmem intent executor text' hconsents hhash
  exact ⟨intent, executor, hconsents⟩

/-- The sender of a transaction is its signer. -/
theorem sender_eq (h : service.KeepsKey asked config s log steps) (t : BlockTransition Payload) :
    config.sender t = t.input.signer := by
  rw [EvEvmConfig.sender, EvEvmConfig.txEnv]
  cases t.input.tx with
  | ethereum tx => exact h.caller_eq tx _
  | evNode tx signature => rfl

/-- The service has sent no transaction. -/
theorem sender_ne (h : service.KeepsKey asked config s log steps)
    (hlog : service.Justified asked log) (ht : t ∈ steps) : config.sender t ≠ s := by
  intro heq
  rw [h.sender_eq] at heq
  have hsigner := h.signer t ht
  rw [heq] at hsigner
  -- a sender has signed a text that does not begin with the byte of the sponsor's domain
  cases htx : t.input.tx with
  | ethereum tx =>
    rw [htx, EvTxEnvelope.recoverSigner, EthereumTransaction.recoverSigner] at hsigner
    split_ifs at hsigner
    obtain ⟨intent, executor, hconsents⟩ :=
      h.consents hlog ht (EvEvmConfig.mem_signatures_ethereum htx) hsigner
    obtain ⟨rest, hrest⟩ := hconsents.exists_eq_cons
    exact tx.encodeForSigning_ne_cons config.eth.signingFields rest hrest
  | evNode tx signature =>
    rw [htx, EvTxEnvelope.recoverSigner_evNode] at hsigner
    obtain ⟨intent, executor, hconsents⟩ :=
      h.consents hlog ht (EvEvmConfig.mem_signatures_evNode htx) hsigner
    obtain ⟨rest, hrest⟩ := hconsents.exists_eq_cons
    have hdomain : evnodeTxTypeId = evnodeSponsorDomain := (List.cons.inj hrest).1
    exact absurd hdomain (by decide)

/-- What the service pays for it has signed for. -/
theorem signedFor (h : service.KeepsKey asked config s log steps)
    (hlog : service.Justified asked log) (ht : t ∈ steps) (hpaid : config.PaidBy s t) :
    service.SignedFor asked config log t := by
  obtain ⟨nodeTx, signature, sponsor, htx, hmem, hrecover⟩ := EvEvmConfig.sponsor_eq_some hpaid.2
  obtain ⟨intent, executor, hconsents⟩ := h.consents hlog ht hmem hrecover
  obtain ⟨rfl, hmatches⟩ :=
    matches_of_sponsorPreimage service.viem (h.size t ht nodeTx signature htx) hconsents.text_eq
  exact ⟨nodeTx, signature, intent, htx, hconsents, hmatches,
    h.unforged t ht sponsor _ hmem hrecover⟩

end KeepsKey

/-- The fees of a transaction that the service has signed for are within the limits of its
policy. -/
theorem SignedFor.maxFees_le (h : service.SignedFor asked config log t) :
    config.maxFees t ≤ service.config.maxGasLimitPerTx.toNat *
      service.config.maxFeePerGasLimit.toNat := by
  obtain ⟨nodeTx, signature, intent, htx, hconsents, hmatches, -⟩ := h
  have hgas := hconsents.approved.gasLimit
  have hfee := hconsents.approved.maxFeePerGas
  rw [hmatches.gasLimit] at hgas
  rw [hmatches.maxFeePerGas] at hfee
  have htxEnv := config.txEnv_evNode htx
  have hgasLimit : (config.txEnv t.input).inner.gasLimit = nodeTx.gasLimit := by
    rw [htxEnv]
    rfl
  -- the effective price is at most the maximum that the policy has looked at
  have hprice : (t.pre.ctxFor config t.input).price ≤ nodeTx.maxFeePerGas.toNat := by
    have hle := (config.txEnv t.input).inner.effectiveGasPrice_le_maxFeePerGas
      ((t.pre.ctxFor config t.input).block.basefee.setWidth 128)
    rw [htxEnv] at hle
    rw [Ctx.price, EvBlockExecutor.ctxFor, htxEnv]
    exact hle
  calc config.maxFees t
      = (t.pre.ctxFor config t.input).price * nodeTx.gasLimit.toNat := by
        rw [EvEvmConfig.maxFees, hgasLimit]
    _ ≤ service.config.maxFeePerGasLimit.toNat * service.config.maxGasLimitPerTx.toNat :=
        Nat.mul_le_mul (by omega) (by omega)
    _ = _ := Nat.mul_comm _ _

namespace KeepsKey

/-- The transactions that the service pays for have different hashes. -/
theorem pairwise_sponsorHash (h : service.KeepsKey asked config s log steps)
    (hlog : service.Justified asked log) (hconfig : config.RaisesNonces) {db db' : WorldState}
    (hchain : Chain config db steps db')
    (hmax : ∀ t ∈ steps, (config.txNonce t).toNat < 2 ^ 64 - 2) :
    (steps.filter (config.PaidBy s ·)).Pairwise fun t t' =>
      config.sponsorHash t.input ≠ config.sponsorHash t'.input := by
  have hpaid : steps.filter (config.PaidBy s ·) =
      (acceptedSteps steps).filter (config.PaidBy s ·) := by
    rw [acceptedSteps, List.filter_filter]
    refine List.filter_congr fun t _ => ?_
    rw [Bool.eq_iff_iff, Bool.and_eq_true, Option.isNone_iff_eq_none]
    exact ⟨fun hpays => ⟨hpays, (of_decide_eq_true hpays).1⟩, And.left⟩
  rw [hpaid]
  refine ((hconfig.pairwise_nonce hchain hmax).filter _).imp_of_mem
    fun {t t'} ht ht' hnonce hhash => ?_
  rw [← hpaid] at ht ht'
  obtain ⟨hmem, hpays⟩ := List.mem_filter.mp ht
  obtain ⟨hmem', hpays'⟩ := List.mem_filter.mp ht'
  obtain ⟨nodeTx, signature, intent, htx, hconsents, -⟩ :=
    h.signedFor hlog hmem (of_decide_eq_true hpays)
  obtain ⟨nodeTx', signature', sponsor, htx', hsignature', -⟩ :=
    EvEvmConfig.sponsor_eq_some (of_decide_eq_true hpays').2
  -- the two are one transaction of one sender, whose nonce is spent
  have hkeccak : config.crypto.keccak256 (nodeTx.sponsorPreimage t.input.signer) =
      config.crypto.keccak256 (nodeTx'.sponsorPreimage t'.input.signer) := by
    rw [EvEvmConfig.sponsorHash_evNode htx, EvEvmConfig.sponsorHash_evNode htx'] at hhash
    exact hhash
  have htext := h.collisionFree t' hmem' sponsor _ hsignature' _ _ _ hconsents hkeccak
  obtain ⟨hsigner, heq⟩ := EvNodeTransaction.eq_of_sponsorPreimage
    (h.size t hmem nodeTx signature htx) (h.size t' hmem' nodeTx' signature' htx') htext
  have hsender : config.sender t = config.sender t' := by
    rw [h.sender_eq, h.sender_eq, hsigner]
  have hspends : ¬ config.LeavesNonce t := fun hleaves =>
    h.sender_ne hlog hmem (Option.some.inj
      (hleaves.2.2.1.symm.trans (of_decide_eq_true hpays).2))
  refine (hnonce hsender hspends).ne ?_
  rw [EvEvmConfig.txNonce, EvEvmConfig.txNonce, config.txEnv_evNode htx, config.txEnv_evNode htx',
    heq]
  rfl

/-- So there are at most as many as it has signed hashes. -/
theorem length_paid_le (h : service.KeepsKey asked config s log steps)
    (hlog : service.Justified asked log) (hconfig : config.RaisesNonces) {db db' : WorldState}
    (hchain : Chain config db steps db')
    (hmax : ∀ t ∈ steps, (config.txNonce t).toNat < 2 ^ 64 - 2) :
    (steps.filter (config.PaidBy s ·)).length ≤ (signedHashes log).length := by
  have hnodup : ((steps.filter (config.PaidBy s ·)).map (config.sponsorHash ·.input)).Nodup :=
    List.pairwise_map.mpr (h.pairwise_sponsorHash hlog hconfig hchain hmax)
  have hsubset : (steps.filter (config.PaidBy s ·)).map (config.sponsorHash ·.input) ⊆
      signedHashes log := by
    intro hash hmem
    obtain ⟨t, ht, rfl⟩ := List.mem_map.mp hmem
    obtain ⟨hmem, hpays⟩ := List.mem_filter.mp ht
    obtain ⟨nodeTx, signature, intent, htx, -, -, hsigned⟩ :=
      h.signedFor hlog hmem (of_decide_eq_true hpays)
    rw [EvEvmConfig.sponsorHash_evNode htx]
    exact hsigned
  have hlength := (List.subperm_of_subset hnodup hsubset).length_le
  rwa [List.length_map] at hlength

end KeepsKey

/-- The fees that the service pays along a chain are at most those that its policy allows for each
of its signatures. -/
theorem sum_maxFees_le (hsigned : ∀ t ∈ steps, config.PaidBy s t →
      service.SignedFor asked config log t)
    (hlength : (steps.filter (config.PaidBy s ·)).length ≤ (signedHashes log).length) :
    ((steps.filter (config.PaidBy s ·)).map config.maxFees).sum ≤ (signedHashes log).length *
      (service.config.maxGasLimitPerTx.toNat * service.config.maxFeePerGasLimit.toNat) := by
  refine le_trans ?_ (Nat.mul_le_mul_right _ hlength)
  have hsum := List.sum_le_card_nsmul ((steps.filter (config.PaidBy s ·)).map config.maxFees)
    (service.config.maxGasLimitPerTx.toNat * service.config.maxFeePerGasLimit.toNat) ?_
  · rwa [List.length_map, smul_eq_mul] at hsum
  · intro fees hmem
    obtain ⟨t, ht, rfl⟩ := List.mem_map.mp hmem
    obtain ⟨hmem, hpays⟩ := List.mem_filter.mp ht
    exact (hsigned t hmem (of_decide_eq_true hpays)).maxFees_le

/-- In every chain that is built or imported while requests are served in any interleaving, the
service pays only for transactions that it was asked to sponsor and has signed for within its
policy, for at most one per signature, and beyond what frames take from it, it loses at most the
largest fee that its policy allows for each. -/
theorem exposure_bounded {c : ServicePool asked}
    (hreaches : service.machine.PoolReaches (service.serveAsked asked) ⟨{}, fun _ => none⟩ c)
    (hraises : config.RaisesNonces) (hspares : config.SparesFunds s) {db db' : WorldState}
    (hchain : Chain config db steps db') (hkey : service.KeepsKey asked config s c.world.log steps)
    (hmax : ∀ t ∈ steps, (config.txNonce t).toNat < 2 ^ 64 - 2) :
    (∀ t ∈ steps, config.PaidBy s t → service.SignedFor asked config c.world.log t) ∧
      (steps.filter (config.PaidBy s ·)).length ≤ (signedHashes c.world.log).length ∧
      (db.load.balance s).toNat ≤ (db'.load.balance s).toNat + ((signedHashes c.world.log).length *
        (service.config.maxGasLimitPerTx.toNat * service.config.maxFeePerGasLimit.toNat) +
          config.totalTaken s steps) := by
  have hlog : service.Justified asked c.world.log :=
    ((sound_serveAsked service asked).safe_of_poolReaches (Machine.poolSafe_of_none inv_initial)
      hreaches).1.1
  have hsigned : ∀ t ∈ steps, config.PaidBy s t → service.SignedFor asked config c.world.log t :=
    fun t ht hpaid => hkey.signedFor hlog ht hpaid
  have hlength := hkey.length_paid_le hlog hraises hchain hmax
  refine ⟨hsigned, hlength, ?_⟩
  have hloss := hspares.rel_chain hchain fun t ht => hkey.sender_ne hlog ht
  calc (db.load.balance s).toNat
      ≤ (db'.load.balance s).toNat +
          (((steps.filter (config.PaidBy s ·)).map config.maxFees).sum +
            config.totalTaken s steps) := hloss
    _ ≤ _ := Nat.add_le_add_left (Nat.add_le_add_right (sum_maxFees_le hsigned hlength) _) _

/-! ## A payment that the service pays for -/

open EvolvePayloadBuilder (paymentBuilder)
open EvReth.EvNodeTransaction (wirePayment)
open EvReth.EvTxEnvelope (paymentSender paymentSponsor unitSignature)

/-- A node on which `paymentSponsor` signs. -/
def keyConfig : EvEvmConfig fun _ => Empty := { paymentBuilder.evmConfig with crypto := keyCrypto }

/-- The service consents to the payment only. -/
theorem eq_of_consents {intent : SponsorableIntent} {executor : Address} {text : Bytes}
    (h : paymentService.Consents PaymentAsked intent executor text) :
    text = wirePayment.sponsorPreimage paymentSender := by
  obtain ⟨rawTx, ⟨body, hasked, hparam⟩, hrequests⟩ := h.requested
  obtain rfl : body = paymentBody := Option.some.inj (Request.jsonRpc.inj hasked)
  have hparam' : paymentService.rawParam paymentBody = some (.string paymentRaw) := rfl
  obtain rfl := Json.string.inj (Option.some.inj (hparam.symm.trans hparam'))
  have hexecutor : unsponsoredPayment.recoverExecutor keyCrypto unitSignature =
      some paymentSender := by decide +kernel
  have hraw : paymentService.hexDigits paymentRaw =
      .ok (Hex.ofBytes (unsponsoredPayment.eip2718Encode unitSignature)) := by decide +kernel
  obtain rfl := eq_of_requests Viem.reference_lawful (ViemCrypto.reference_agrees keyCrypto) hraw
    (by decide +kernel) hexecutor hrequests
  have htext := h.text_eq
  rw [← h.executor_eq, sponsorSigningPreimage_eq
    (EvNodeTransaction.represents_ofNode unsponsoredPayment)] at htext
  show text = unsponsoredPayment.sponsorPreimage paymentSender
  rw [← Except.ok.inj htext, Hex.toBytes_ofBytes]

/-- In the example the key has signed the one transaction of the service. -/
theorem keepsKey_payment {log : List Event}
    (hlog : signedHashes log = [wirePayment.sponsorSigningHash keyCrypto paymentSender])
    {steps : List (BlockTransition fun _ => Empty)}
    (hsteps : ∀ t ∈ steps, t.input = recoveredSponsored) :
    paymentService.KeepsKey PaymentAsked keyConfig paymentSponsor log steps where
  agrees := ViemCrypto.reference_agrees keyCrypto
  returnsAddresses hash signature hex h := by
    simp only [paymentService, ViemCrypto.reference] at h
    split at h
    · exact ⟨_, (Except.ok.inj h).symm⟩
    · cases h
  caller_eq tx := tx.tx.elim
  signer t ht := by
    rw [hsteps t ht]
    decide +kernel
  size t ht tx signature htx := by
    rw [hsteps t ht] at htx
    obtain ⟨rfl, -⟩ := EvTxEnvelope.evNode.inj htx
    decide +kernel
  -- of the two signatures in the chain only the sponsor's recovers to the service
  unforged t ht signature text hmem hrecover := by
    rw [hsteps t ht] at hmem
    rw [hlog, List.mem_singleton]
    rcases List.mem_pair.mp hmem with hexecutor | hsponsor
    · obtain ⟨rfl, rfl⟩ := Prod.mk.inj hexecutor
      exact absurd hrecover (by decide +kernel)
    · obtain ⟨-, rfl⟩ := Prod.mk.inj hsponsor
      rfl
  collisionFree t ht signature text hmem intent executor text' hconsents hhash := by
    rw [hsteps t ht] at hmem
    obtain rfl := eq_of_consents hconsents
    rcases List.mem_pair.mp hmem with hexecutor | hsponsor
    · obtain ⟨-, rfl⟩ := Prod.mk.inj hexecutor
      exact absurd hhash (by decide +kernel)
    · exact (Prod.mk.inj hsponsor).2.symm

/-- The service pays for the payment that it has signed for, and for no other. -/
theorem exposure_bounded_payment :
    ∃ (c : ServicePool PaymentAsked) (steps : List (BlockTransition fun _ => Empty))
      (db : WorldState),
      Chain keyConfig sponsoredWorld steps db ∧
      (steps.filter (keyConfig.PaidBy paymentSponsor ·)).length = 1 ∧
      (signedHashes c.world.log).length = 1 ∧ keyConfig.totalTaken paymentSponsor steps = 0 ∧
      1000000000 ≤ (db.load.balance paymentSponsor).toNat + 1 * (500000 * 100000000000) := by
  obtain ⟨c, id, result, hreaches, -, -, hsigned⟩ := poolReaches_payment
  have hchain : Chain keyConfig sponsoredWorld
      (transitions (blockStep keyConfig) (plainBlock sponsoredWorld) [recoveredSponsored] ++ [])
      (finalState (blockStep keyConfig) (plainBlock sponsoredWorld) [recoveredSponsored]).evm.db :=
    .block rfl rfl (.nil _)
  have hsteps : ∀ t ∈ transitions (blockStep keyConfig) (plainBlock sponsoredWorld)
      [recoveredSponsored] ++ [], t.input = recoveredSponsored := by
    intro t ht
    rw [List.append_nil] at ht
    exact List.mem_singleton.mp (input_mem_of_mem_transitions ht)
  have hbalance : (sponsoredWorld.load.balance paymentSponsor).toNat = 1000000000 := by
    decide +kernel
  have hlength : (signedHashes c.world.log).length = 1 := by
    rw [hsigned]
    rfl
  have htaken : keyConfig.totalTaken paymentSponsor
      (transitions (blockStep keyConfig) (plainBlock sponsoredWorld) [recoveredSponsored] ++ []) =
        0 := by
    decide +kernel
  have hraises : keyConfig.RaisesNonces := raisesNonces_paymentBuilder keyCrypto
  have hspares : keyConfig.SparesFunds paymentSponsor :=
    sparesFunds_paymentBuilder keyCrypto paymentSponsor
  obtain ⟨-, -, hloss⟩ := exposure_bounded hreaches hraises hspares hchain
    (keepsKey_payment hsigned hsteps) (by decide +kernel)
  refine ⟨c, _, _, hchain, by decide +kernel, hlength, htaken, ?_⟩
  rw [hlength, htaken, hbalance] at hloss
  exact hloss

end SponsorService

end EvReth.Sponsor
