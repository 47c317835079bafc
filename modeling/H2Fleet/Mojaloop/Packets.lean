import H2Fleet.Audit.Timestamp
import H2Fleet.Mojaloop.Client

/-!
# The packet of a transfer

`mojaloop/ilp.go`: the Prepare packet of a transfer whose ILP data `Transfer` makes itself, over
SHA-256 and base 64.  Fulfilment and condition come from the transfer id, and `deriveFulfilment`
promises a retry the same packet; but the packet holds an expiry too, and without one in the quote
it is the time of the run.
-/

namespace H2Fleet.Mojaloop

open Audit

/-- SHA-256, and `base64.RawURLEncoding`. -/
structure Codec where
  sha256 : List UInt8 → Vector UInt8 32
  encodeToString : List UInt8 → String
  decodeString : String → Option (List UInt8)
  decode_encode : ∀ bs, decodeString (encodeToString bs) = some bs

def ilpTypePrepare : UInt8 := 12

def ilpDestination : String := "g.moja.h2fleet"

/-- `t.UTC().Format(ilpTimestampLayout)`. -/
def ilpTimestamp (t : ℤ) : String :=
  let date := civil (dayOf t)
  let s := secondOfDay t
  String.ofList (appendYear date.year ++ pad 2 date.month.toNat ++ pad 2 date.day.toNat ++
    pad 2 (s / 3600) ++ pad 2 (s / 60 % 60) ++ pad 2 (s % 60) ++
    '.' :: pad 3 (nanosecond t / 1000000) ++ ['Z'])

/-- `n` in `w` bytes, the most significant first. -/
def putUint : ℕ → ℕ → List UInt8
  | 0, _ => []
  | w + 1, n => .ofNat (n / 256 ^ w) :: putUint w n

def encodeILPPrepare (destination : String) (amountMinor : ℕ) (expiresAt : ℤ)
    (condition : Vector UInt8 32) : List UInt8 :=
  ilpTypePrepare :: .ofNat (bytes destination).length ::
    (bytes destination ++ putUint 8 amountMinor ++ bytes (ilpTimestamp expiresAt) ++
      putUint 4 condition.size ++ condition.toList ++ putUint 4 0)

variable (f : Codec)

def deriveFulfilment (transferID secret : String) : Vector UInt8 32 :=
  f.sha256 (bytes ("h2fleet:ilp-fulfilment:v1:" ++ secret ++ ":" ++ transferID))

def conditionFor (fulfilment : Vector UInt8 32) : String × Vector UInt8 32 :=
  let raw := f.sha256 fulfilment.toList
  (f.encodeToString raw.toList, raw)

/-- `buildILP`: packet, condition and fulfilment. -/
def buildILP (transferID secret : String) (amountMinor : ℕ) (expiresAt : ℤ) :
    String × String × String :=
  let fulfilment := deriveFulfilment f transferID secret
  let condition := conditionFor f fulfilment
  (f.encodeToString (encodeILPPrepare ilpDestination amountMinor expiresAt condition.2),
    condition.1, f.encodeToString fulfilment.toList)

def verifyFulfilment (fulfilment condition : String) : Bool :=
  match f.decodeString fulfilment, f.decodeString condition with
  | some x, some c => (f.sha256 x).toList == c
  | _, _ => false

/-- The platform with the packets of `buildILP`, of positive amounts. -/
def Codec.platform (p : Platform) : Platform :=
  { p with
    buildILP := fun id secret amount expiry =>
      let ilp := buildILP f id secret amount.toNat expiry
      (ilp.1, ilp.2.1)
    verifyFulfilment := verifyFulfilment f }

lemma length_putUint : ∀ w n : ℕ, (putUint w n).length = w
  | 0, _ => rfl
  | w + 1, n => congrArg (· + 1) (length_putUint w n)

lemma mod_eq_of_putUint : ∀ {w n n' : ℕ}, putUint w n = putUint w n' → n % 256 ^ w = n' % 256 ^ w
  | 0, n, n', _ => by simp [Nat.mod_one]
  | w + 1, n, n', h => by
    obtain ⟨hhead, htail⟩ := List.cons.inj h
    have hdigit : n / 256 ^ w % 256 = n' / 256 ^ w % 256 := by
      simpa using congrArg UInt8.toNat hhead
    rw [Nat.mod_pow_succ, Nat.mod_pow_succ, mod_eq_of_putUint htail, hdigit]

/-- **A packet can be read in one way.**  The stamp has no length of its own, what follows has. -/
theorem encodeILPPrepare_fields {d d' : String} {n n' : ℕ} {e e' : ℤ} {c c' : Vector UInt8 32}
    (hd : (bytes d).length < 256) (hd' : (bytes d').length < 256) (hn : n < 2 ^ 64)
    (hn' : n' < 2 ^ 64) (h : encodeILPPrepare d n e c = encodeILPPrepare d' n' e' c') :
    d = d' ∧ n = n' ∧ ilpTimestamp e = ilpTimestamp e' ∧ c = c' := by
  simp only [encodeILPPrepare, List.cons.injEq, true_and, List.append_assoc] at h
  obtain ⟨hlen, h⟩ := h
  have hlen : (bytes d).length = (bytes d').length := by
    simpa [Nat.mod_eq_of_lt hd, Nat.mod_eq_of_lt hd'] using congrArg UInt8.toNat hlen
  obtain ⟨hdest, h⟩ := List.append_inj h hlen
  obtain ⟨hamount, h⟩ := List.append_inj h (by simp only [length_putUint])
  obtain ⟨hstamp, h⟩ := List.append_inj' h (by simp [length_putUint])
  have hmod : n % 2 ^ 64 = n' % 2 ^ 64 := mod_eq_of_putUint hamount
  rw [Nat.mod_eq_of_lt hn, Nat.mod_eq_of_lt hn'] at hmod
  have hcond : c.toList = c'.toList := by simpa using h
  exact ⟨bytes_inj hdest, hmod, bytes_inj hstamp, Vector.toList_inj.mp hcond⟩

theorem encodeILPPrepare_fields_millisecond :
    let packet (expiresAt : ℤ) := encodeILPPrepare ilpDestination 250 expiresAt (.replicate 32 0)
    packet 0 = packet 999999 ∧ ilpTimestamp 0 = ilpTimestamp 999999 := by
  intro packet
  have h : packet 0 = packet 999999 := by decide +kernel
  exact ⟨h, (encodeILPPrepare_fields (by decide) (by decide) (by decide) (by decide) h).2.2.1⟩

lemma packet_eq_iff (id secret : String) (n : ℕ) {e e' : ℤ} :
    (buildILP f id secret n e).1 = (buildILP f id secret n e').1 ↔
    ilpTimestamp e = ilpTimestamp e' := by
  constructor
  · intro h
    have hpacket := congrArg f.decodeString h
    simp only [buildILP, f.decode_encode, Option.some.injEq, encodeILPPrepare, List.cons.injEq,
      List.append_cancel_right_eq, List.append_cancel_left_eq, true_and] at hpacket
    exact bytes_inj hpacket
  · intro h
    simp only [buildILP, encodeILPPrepare, h]

lemma verifyFulfilment_buildILP (id secret : String) (n : ℕ) (e : ℤ) :
    verifyFulfilment f (buildILP f id secret n e).2.2
      (conditionFor f (deriveFulfilment f id secret)).1 = true := by
  simp [verifyFulfilment, buildILP, conditionFor, f.decode_encode]

/-- The quote says when it expires, and `time.Parse` can read it. -/
def QuoteResponse.Expires (p : Platform) (quote : QuoteResponse) : Prop :=
  quote.expiration ≠ "" ∧ (p.parseTime quote.expiration).isSome

section Retries

variable {c : Client} {p : Platform} {req : PaymentRequest} {quote : QuoteResponse}

lemma retried_ilpPacket_iff
    (hlocal : quote.ilpPacket = "" ∨ quote.condition = "" ∨ c.generateILP = true)
    (payee payee' : Party) (now now' : ℤ) :
    (transferRequest c (f.platform p) req payee quote now).ilpPacket =
        (transferRequest c (f.platform p) req payee' quote now').ilpPacket ↔
      quote.Expires p ∨ ilpTimestamp (now + 120 * second) = ilpTimestamp (now' + 120 * second) := by
  simp only [transferRequest, ilpOf, if_pos hlocal]
  refine (packet_eq_iff f _ _ _).trans ?_
  show ilpTimestamp (if quote.expiration = "" then now + 120 * second
      else (p.parseTime quote.expiration).getD (now + 120 * second)) =
    ilpTimestamp (if quote.expiration = "" then now' + 120 * second
      else (p.parseTime quote.expiration).getD (now' + 120 * second)) ↔ _
  rw [QuoteResponse.Expires]
  split_ifs with hnone
  · simp [hnone]
  · cases p.parseTime quote.expiration with
    | none => simp
    | some t => simp [hnone]

lemma condition_of_local
    (hlocal : quote.ilpPacket = "" ∨ quote.condition = "" ∨ c.generateILP = true) (payee : Party)
    (now : ℤ) : (transferRequest c (f.platform p) req payee quote now).condition =
      (conditionFor f (deriveFulfilment f (p.transferID req) c.secret)).1 := by
  simp only [transferRequest, ilpOf, if_pos hlocal]
  rfl

/-- **A retry sends what the first run sent** exactly if the quote expires at a time or the two
packets are made in the same millisecond; the fulfilment is good for both in any case. -/
theorem retried_packet_iff
    (hlocal : quote.ilpPacket = "" ∨ quote.condition = "" ∨ c.generateILP = true)
    (payee payee' : Party) (now now' expiry : ℤ) :
    let t := transferRequest c (f.platform p) req payee quote now
    let t' := transferRequest c (f.platform p) req payee' quote now'
    ((t.transferID = t'.transferID ∧ t.ilpPacket = t'.ilpPacket ∧ t.condition = t'.condition) ↔
      quote.Expires p ∨ ilpTimestamp (now + 120 * second) = ilpTimestamp (now' + 120 * second)) ∧
    verifyFulfilment f (buildILP f t.transferID c.secret req.amountMinor.toNat expiry).2.2
      t'.condition = true := by
  intro t t'
  rw [← retried_ilpPacket_iff f hlocal payee payee' now now', condition_of_local f hlocal,
    condition_of_local f hlocal]
  exact ⟨⟨fun h => h.2.1, fun h => ⟨rfl, h, rfl⟩⟩, verifyFulfilment_buildILP f _ _ _ _⟩

end Retries

/-! ## A codec to compute with -/

/-- The digits of `base64.RawURLEncoding`. -/
def urlDigit (n : Fin 64) : Char :=
  "ABCDEFGHIJKLMNOPQRSTUVWXYZabcdefghijklmnopqrstuvwxyz0123456789-_".toList.getD n '_'

def urlDigit? (c : Char) : Option (Fin 64) := (List.finRange 64).find? fun n => urlDigit n = c

def sextets : List UInt8 → List (Fin 64)
  | a :: b :: c :: bs =>
    .ofNat 64 (a.toNat / 4) :: .ofNat 64 (a.toNat * 16 + b.toNat / 16) ::
      .ofNat 64 (b.toNat * 4 + c.toNat / 64) :: .ofNat 64 c.toNat :: sextets bs
  | [a, b] =>
    [.ofNat 64 (a.toNat / 4), .ofNat 64 (a.toNat * 16 + b.toNat / 16), .ofNat 64 (b.toNat * 4)]
  | [a] => [.ofNat 64 (a.toNat / 4), .ofNat 64 (a.toNat * 16)]
  | [] => []

def octets : List (Fin 64) → Option (List UInt8)
  | a :: b :: c :: d :: ns => (octets ns).map fun bs =>
    .ofNat (a * 4 + b / 16) :: .ofNat (b % 16 * 16 + c / 4) :: .ofNat (c % 4 * 64 + d) :: bs
  | [a, b, c] => some [.ofNat (a * 4 + b / 16), .ofNat (b % 16 * 16 + c / 4)]
  | [a, b] => some [.ofNat (a * 4 + b / 16)]
  | [_] => none
  | [] => some []

lemma octets_sextets : ∀ bs : List UInt8, octets (sextets bs) = some bs
  | a :: b :: c :: bs => by
    have ha := a.toNat_lt
    have hb := b.toNat_lt
    have hc := c.toNat_lt
    simp only [sextets, octets, octets_sextets bs, Option.map_some, Fin.val_ofNat,
      Option.some.injEq, List.cons.injEq, and_true, ← UInt8.toNat_inj, UInt8.toNat_ofNat']
    omega
  | [a, b] => by
    have ha := a.toNat_lt
    have hb := b.toNat_lt
    simp only [sextets, octets, Fin.val_ofNat, Option.some.injEq, List.cons.injEq, and_true,
      ← UInt8.toNat_inj, UInt8.toNat_ofNat']
    omega
  | [a] => by
    have ha := a.toNat_lt
    simp only [sextets, octets, Fin.val_ofNat, Option.some.injEq, List.cons.injEq, and_true,
      ← UInt8.toNat_inj, UInt8.toNat_ofNat']
    omega
  | [] => rfl

lemma mapM_urlDigit : ∀ ns : List (Fin 64), (ns.map urlDigit).mapM urlDigit? = some ns
  | [] => rfl
  | n :: ns => by
    have hdigit : ∀ n, urlDigit? (urlDigit n) = some n := by decide +kernel
    rw [List.map_cons, List.mapM_cons, hdigit, mapM_urlDigit ns]
    rfl

/-- SHA-256 as in the table, and base 64 (`DecodeString` also skips line breaks). -/
def tableCodec (table : List (List UInt8 × Vector UInt8 32)) : Codec where
  sha256 := fun bs => (table.lookup bs).getD (.replicate 32 0)
  encodeToString := fun bs => String.ofList ((sextets bs).map urlDigit)
  decodeString := fun s => (s.toList.mapM urlDigit?).bind octets
  decode_encode bs := by
    rw [String.toList_ofList, mapM_urlDigit, Option.bind_some, octets_sextets]

def digest (n : ℕ) : Vector UInt8 32 := ⟨(putUint 32 n).toArray, by simp [length_putUint]⟩

def fareID : String := "3d2568bc-0b61-48c5-988f-1fb6fc5aca78"

def fareFulfilment : Vector UInt8 32 :=
  digest 0xda701be11ca1211d6b9dca11f369934627b7b3517e5a6a6d5ed7eaa3234aa37f

/-- SHA-256 on what the packets of `somePayment` are made of. -/
def fareCodec : Codec :=
  tableCodec [(bytes ("h2fleet:ilp-fulfilment:v1::" ++ fareID), fareFulfilment),
    (fareFulfilment.toList,
      digest 0xe9033491e85efc21ddbffffc967e05f87d65d74d28562e5c1f8bcb6c7e5a4b33)]

def fareQuote (expiration : String) : QuoteResponse :=
  ⟨⟨"2.50", "EUR"⟩, "payeefsp", "h2fleet", expiration, "", ""⟩

def farePlatform (expiration : String) : Platform :=
  { plainPlatform with
    uuidOf := fun _ => fareID
    parseTime := fun _ => some 0
    decodeQuote := fun _ => .ok (fareQuote expiration) }

/-- What `Transfer` sends for `somePayment` if the quote comes at `now`. -/
def fareSent (expiration : String) (now : ℤ) : TransferRequest :=
  transferRequest handlerClient (fareCodec.platform (farePlatform expiration)) somePayment
    ⟨"payeefsp", "Operator"⟩ (fareQuote expiration) now

/-- The same quote, an hour later. -/
theorem retried_packet_hour :
    let sent := fareSent "1970-01-01T00:00:00Z"
    (sent 0).ilpPacket = (sent (3600 * second)).ilpPacket ∧
      (sent 0).condition = "6QM0kehe_CHdv__8ln4F-H1l100oVi5cH4vLbH5aSzM" :=
  ⟨((retried_packet_iff fareCodec (.inl rfl) _ _ _ _ 0).1.mpr (.inl ⟨by decide, rfl⟩)).2.1,
    by decide +kernel⟩

/-! ## Two runs of a transfer -/

/-- A run of `Transfer` that is answered `quote` on `/quotes` at `now`, and comes to send `t`. -/
inductive Sends (c : Client) (p : Platform) (req : PaymentRequest) (quote : QuoteResponse) (now : ℤ)
    (t : TransferRequest) : Prop
  | intro (ctx : Option ℤ) (start : ℤ) (before after : List Attempt) (s s' : Flow) (payee : Party)
      (q : QuoteRequest) (l : Loop) (a : Attempt) (status : ℕ) (body : String) :
      run (Flow.step c p req ctx) (enter c req ctx start) before = some s →
      s.phase = .requestQuote payee q l → a.outcome = .answered status body →
      200 ≤ status ∧ status < 300 →
      unmarshal (.quotes q) p.decodeQuote ⟨⟨"", ""⟩, "", "", "", "", ""⟩ status body = .ok quote →
      now = s.now + a.elapsed → run (Flow.step c p req ctx) s (a :: after) = some s' →
      s'.phase.call c = some (.transfers t) → Sends c p req quote now t

section Runs

variable {c : Client} {p : Platform} {req : PaymentRequest} {quote : QuoteResponse} {ctx : Option ℤ}
  {payee : Party} {t : TransferRequest} {s s' : Flow} {a : Attempt}

/-- A call with a transfer to send sends that one, or has returned. -/
def Flow.Sending (payee : Party) (t : TransferRequest) (s : Flow) : Prop :=
  (∃ l, s.phase = .sendTransfer payee t l) ∨ ∃ r, s.phase = .returned r

lemma Flow.Sending.step (hs : s.Sending payee t) (h : s.step c p req ctx a = some s') :
    s'.Sending payee t := by
  obtain ⟨-, l, live, timedOut, hl, hends⟩ := step_ended h
  rcases hs with ⟨l', hphase⟩ | ⟨r, hphase⟩
  · rw [hphase] at hends
    rcases hends with ⟨-, rfl⟩ | ⟨hended, -⟩
    · exact .inl ⟨_, rfl⟩
    · obtain ⟨r, -, hr⟩ := Option.map_eq_some_iff.mp hended
      obtain ⟨res, hres⟩ := afterSendTransfer_returned p req payee (sendTransferEnd p t r)
      exact .inr ⟨res, hr.symm.trans hres⟩
  · rw [hphase] at hl
    cases hl

lemma Sends.eq_transferRequest {now : ℤ} (h : Sends c p req quote now t) :
    ∃ payee, t = transferRequest c p req payee quote now := by
  obtain ⟨ctx, start, before, after, s, s', payee, q, l, a, status, body, -, hphase, hout, h2xx,
    hquote, rfl, hrun, hcall⟩ := h
  refine ⟨payee, ?_⟩
  obtain ⟨s₁, hstep, hrest⟩ := run_cons_eq_some.mp hrun
  have hsending : s₁.Sending payee (transferRequest c p req payee quote (s.now + a.elapsed)) := by
    obtain ⟨-, l', live, timedOut, -, hends⟩ := step_ended hstep
    have hended : s.phase.ended c p req ctx (s.now + a.elapsed) live timedOut a.outcome =
        some (afterRequestQuote c p req ctx payee (s.now + a.elapsed)
          (requestQuoteEnd p req (.ok quote))) := by
      rw [hphase, hout, Phase.ended, attemptEnd, if_pos h2xx, hquote, Option.map_some]
    rw [hended] at hends
    obtain ⟨hnone, -⟩ | ⟨hsome, -⟩ := hends
    · cases hnone
    · rw [Option.some.injEq, requestQuoteEnd] at hsome
      split_ifs at hsome
      · exact .inr ⟨_, hsome.symm⟩
      · exact .inl ⟨_, hsome.symm⟩
  rcases run_invariant_always (fun _ _ _ hs h => hs.step h) hsending hrest with ⟨l', hl'⟩ | ⟨r, hr⟩
  · rw [hl'] at hcall
    cases hcall
    rfl
  · rw [hr] at hcall
    cases hcall

/-- **Two runs with one quote** send the same id and condition, and the same packet exactly if the
quote expires at a time or both are made in the same millisecond. -/
theorem retried_transfer_iff {now now' : ℤ} {t t' : TransferRequest}
    (hlocal : quote.ilpPacket = "" ∨ quote.condition = "" ∨ c.generateILP = true)
    (hsends : Sends c (f.platform p) req quote now t)
    (hsends' : Sends c (f.platform p) req quote now' t') :
    t.transferID = t'.transferID ∧ t.condition = t'.condition ∧
      (t.ilpPacket = t'.ilpPacket ↔
        quote.Expires p ∨ ilpTimestamp (now + 120 * second) = ilpTimestamp
        (now' + 120 * second)) := by
  obtain ⟨payee, rfl⟩ := hsends.eq_transferRequest
  obtain ⟨payee', rfl⟩ := hsends'.eq_transferRequest
  refine ⟨rfl, ?_, retried_ilpPacket_iff f hlocal payee payee' now now'⟩
  rw [condition_of_local f hlocal, condition_of_local f hlocal]

end Runs

/-- Payee and quote are answered at once. -/
lemma fareSent_sends (expiration : String) (now : ℤ) :
    Sends handlerClient (fareCodec.platform (farePlatform expiration)) somePayment
    (fareQuote expiration)
      now (fareSent expiration now) := by
  have h : Sends handlerClient (fareCodec.platform (farePlatform expiration)) somePayment
      (fareQuote expiration) (now + 0 + 0) (fareSent expiration (now + 0 + 0)) :=
    .intro none now [⟨0, false, .answered 200 "payeefsp"⟩] [] _ _ ⟨"payeefsp", "Operator"⟩ _ _
      ⟨0, false, .answered 200 "quote"⟩ 200 "quote" rfl rfl rfl (by decide) rfl rfl rfl rfl
  rwa [add_zero, add_zero] at h

theorem retried_transfer_expiring :
    let sent := fareSent "1970-01-01T00:00:00Z"
    (sent 0).ilpPacket = (sent (3600 * second)).ilpPacket :=
  (retried_transfer_iff fareCodec (.inl rfl) (fareSent_sends "1970-01-01T00:00:00Z" 0)
    (fareSent_sends _ (3600 * second))).2.2.mpr (.inl ⟨by decide, rfl⟩)

/-- **A retry sends another packet**, an hour later, if the quote has no expiration. -/
theorem retried_transfer_differs :
    ∃ t t', Sends handlerClient (fareCodec.platform (farePlatform "")) somePayment
    (fareQuote "") 0 t ∧
      Sends handlerClient (fareCodec.platform (farePlatform "")) somePayment (fareQuote "")
        (3600 * second) t' ∧ t.ilpPacket ≠ t'.ilpPacket :=
  ⟨_, _, fareSent_sends "" 0, fareSent_sends "" (3600 * second), by decide +kernel⟩

end H2Fleet.Mojaloop
