import Ananke.Text.Hex

/-! The gateway passes the body of a response on in chunks, as the upstream reads bring it. -/
namespace Ananke.TrustedSupervisor

open Text List

inductive ReadError
  | eof
  | failed
deriving DecidableEq

/-- What one `Read` of the upstream body returns. -/
structure BodyRead where
  data : List UInt8
  err : Option ReadError

def maxAuditBrokerResponseBytes : Nat := 32 * 1024 * 1024

/-- `strconv.AppendInt` in base 16. -/
def appendHex (n : Nat) : List UInt8 := (Nat.toDigits 16 n).map (·.toNat.toUInt8)

def chunk (data : List UInt8) : List UInt8 := appendHex data.length ++ [13, 10] ++ data ++ [13, 10]

/-- What the loop of `writeResponse` sends after the header, for the reads that have returned. -/
def writeBody (limit total : Nat) : List BodyRead → List UInt8
  | [] => []
  | r :: rest =>
    let total := total + r.data.length
    if 0 < r.data.length ∧ limit < total then []
    else
      (if 0 < r.data.length then chunk r.data else []) ++
        match r.err with
        | none => writeBody limit total rest
        | some .eof => [48, 13, 10, 13, 10]
        | some .failed => []

/-- The bytes read up to the first error, and that error. -/
def upstream : List BodyRead → List UInt8 × Option ReadError
  | [] => ([], none)
  | ⟨data, none⟩ :: rest => (data ++ (upstream rest).1, (upstream rest).2)
  | ⟨data, some e⟩ :: _ => (data, some e)

/-- Where a client is in a chunked body; `data n` has `n + 1` bytes to come. -/
inductive Place
  | size (value : Option Nat)
  | sizeEnd (n : Nat)
  | data (n : Nat)
  | dataEnd
  | dataEnded
  | last
  | lastEnd
  | complete
  | broken
deriving DecidableEq

/-- The client takes one more byte. -/
def decodeByte : Place × List UInt8 → UInt8 → Place × List UInt8
  | (.size value, out), b =>
    if b = 13 then (value.elim .broken .sizeEnd, out)
    else ((hexValue (Char.ofNat b.toNat)).elim .broken
      fun digit => .size (some (16 * value.getD 0 + digit)), out)
  | (.sizeEnd 0, out), 10 => (.last, out)
  | (.sizeEnd (n + 1), out), 10 => (.data n, out)
  | (.data 0, out), b => (.dataEnd, out ++ [b])
  | (.data (n + 1), out), b => (.data n, out ++ [b])
  | (.dataEnd, out), 13 => (.dataEnded, out)
  | (.dataEnded, out), 10 => (.size none, out)
  | (.last, out), 13 => (.lastEnd, out)
  | (.lastEnd, out), 10 => (.complete, out)
  | (_, out), _ => (.broken, out)

def decodeChunks (bytes : List UInt8) : Place × List UInt8 :=
  bytes.foldl decodeByte (.size none, [])

variable {n limit total : Nat} {data out : List UInt8}

theorem decodeByte_digit (hn : n < 16) (v : Option Nat) :
    decodeByte (.size v, out) (Nat.digitChar n).toNat.toUInt8 =
      (.size (some (16 * v.getD 0 + n)), out) := by
  have hdigit : ∀ n < 16, (Nat.digitChar n).toNat.toUInt8 ≠ 13 ∧
      hexValue (Char.ofNat ((Nat.digitChar n).toNat % 256)) = some n := by decide
  simp [decodeByte, hdigit n hn]

theorem decode_appendHex (n : Nat) :
    (appendHex n).foldl decodeByte (.size none, out) = (.size (some n), out) := by
  induction n using Nat.strongRecOn with
  | ind n ih =>
    by_cases hn : n < 16
    · simp [appendHex, Nat.toDigits_of_lt_base hn, decodeByte_digit hn]
    · have hdigits : appendHex n = appendHex (n / 16) ++
          [(Nat.digitChar (n % 16)).toNat.toUInt8] := by
        simp [appendHex, Nat.toDigits_of_base_le (by decide) (Nat.le_of_not_lt hn)]
      rw [hdigits, foldl_append, ih (n / 16) (by omega), foldl_cons, foldl_nil,
        decodeByte_digit (Nat.mod_lt n (by decide)), Option.getD_some, Nat.div_add_mod]

theorem decode_data (h : data.length = n + 1) :
    data.foldl decodeByte (.data n, out) = (.dataEnd, out ++ data) := by
  induction data generalizing n out with
  | nil => simp at h
  | cons b data ih =>
    cases n with
    | zero => simp [length_eq_zero_iff.mp (Nat.succ.inj h), decodeByte]
    | succ n => simpa [decodeByte] using @ih n (out ++ [b]) (Nat.succ.inj h)

theorem decode_block :
    (if 0 < data.length then chunk data else []).foldl decodeByte (.size none, out) =
      (.size none, out ++ data) := by
  cases hlen : data.length with
  | zero => simp [length_eq_zero_iff.mp hlen]
  | succ n =>
    have hsize : decodeByte (decodeByte (.size (some (n + 1)), out) 13) 10 = (.data n, out) := rfl
    have hend (out : List UInt8) :
        decodeByte (decodeByte (.dataEnd, out) 13) 10 = (.size none, out) := rfl
    simp [chunk, hlen, decode_appendHex, hsize, decode_data hlen, hend]

/-- A client that has received whole chunks goes on with the rest of the body, up to the read that
exceeds the limit. -/
theorem decode_writeBody (reads : List BodyRead) (htotal : total ≤ limit) (out : List UInt8) :
    ∃ sent, sent <+: (upstream reads).1 ∧
      (total + (upstream reads).1.length ≤ limit → sent = (upstream reads).1) ∧
      (writeBody limit total reads).foldl decodeByte (.size none, out) =
        (if (upstream reads).2 = some .eof ∧ total + (upstream reads).1.length ≤ limit
          then .complete else .size none, out ++ sent) := by
  induction reads generalizing total out with
  | nil => exact ⟨[], by simp [upstream, writeBody]⟩
  | cons r rest ih =>
    obtain ⟨data, err⟩ := r
    have hlen : data.length ≤ (upstream (⟨data, err⟩ :: rest)).1.length := by
      cases err <;> simp [upstream]
    by_cases hover : 0 < data.length ∧ limit < total + data.length
    · have hlong : ¬ total + (upstream (⟨data, err⟩ :: rest)).1.length ≤ limit := by omega
      exact ⟨[], by simp [writeBody, hover, hlong]⟩
    · have hwithin : total + data.length ≤ limit := by omega
      simp only [writeBody, hover, if_false, foldl_append, decode_block]
      cases err with
      | none =>
        obtain ⟨sent, hsent, hall, hdec⟩ := ih hwithin (out ++ data)
        rw [hdec]
        refine ⟨data ++ sent, (prefix_append_right_inj data).mpr hsent, ?_⟩
        simpa [upstream, Nat.add_assoc] using hall
      | some e =>
        cases e with
        | eof => exact ⟨data, by simp [upstream, hwithin, decodeByte, hexValue, isDigit]⟩
        | failed => exact ⟨data, by simp [upstream]⟩

/-- However the upstream body is read, the client receives a beginning of it, and all of it if it
stays within the limit; the client takes the response for complete exactly if the body did stay
within the limit and came to its end, and is otherwise left between two chunks. -/
theorem response_framing (reads : List BodyRead) :
    let body := (upstream reads).1
    let received := decodeChunks (writeBody maxAuditBrokerResponseBytes 0 reads)
    received.2 <+: body ∧ (body.length ≤ maxAuditBrokerResponseBytes → received.2 = body) ∧
      (received.1 = .complete ↔ (upstream reads).2 = some .eof ∧
        body.length ≤ maxAuditBrokerResponseBytes) ∧
      (received.1 ≠ .complete → received.1 = .size none) := by
  obtain ⟨sent, hsent, hall, hdecode⟩ := decode_writeBody reads
    (Nat.zero_le maxAuditBrokerResponseBytes) []
  simp only [Nat.zero_add] at hall hdecode
  simp only [decodeChunks, hdecode, nil_append]
  refine ⟨hsent, hall, ?_⟩
  split_ifs with hcomplete
  · simp [hcomplete]
  · simp [hcomplete]

end Ananke.TrustedSupervisor
