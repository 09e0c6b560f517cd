import TollBackend.Fe.ReplyFrames

/-!
# The socket of the test client

`FeClient` encrypts a request and writes it as one frame. It reads a reply in two parts, its
length and its payload, each in a loop over the pieces in which the bytes arrive, and tells the
plain errors of the server from replies by their length.

## Main definitions

* `FeClient.send`, `FeClient.receive`: one request and one reply.
* `sendPlainError`: what the server writes before there is a key.

## Main results

* `FeClient.receiveAll_of_cut`: the client receives the replies that the server has written, in
  order and however they arrive, and learns how the connection ends.
-/

namespace TollBackend.Fe

open Wire

/-- `wrapEncrypted` of `AesCrypto`. -/
def wrapEncrypted (encrypted : Bytes) : Bytes :=
  leBytes 4 (4 + encrypted.length) ++ encrypted

/-- `send_plain_error_then_close` of the server. -/
def sendPlainError (errorCode : I32) : Bytes :=
  le32 8 ++ errorCode.bytes

namespace FeClient

/-! ### Sending and receiving -/

/-- `send`: what the client writes for a plain payload. -/
def send (cipher : BlockCipher) (key : AesKey) (plainPayload : Bytes) : Bytes :=
  wrapEncrypted (cipher.encryptPadded key plainPayload)

/-- `PLAIN_ERR_NO_ENCRYPTION_KEY`. -/
def PLAIN_ERR_NO_ENCRYPTION_KEY : Int := 301

/-- `PLAIN_ERR_EMPTY_KEY`. -/
def PLAIN_ERR_EMPTY_KEY : Int := 302

/-- `PLAIN_ERR_IP_DENIED`. -/
def PLAIN_ERR_IP_DENIED : Int := 307

/-- `PLAIN_ERR_IP_BLOCKED`. -/
def PLAIN_ERR_IP_BLOCKED : Int := 308

/-- `plainErrorMessage`. -/
def plainErrorMessage (code : Int) : String :=
  if code = PLAIN_ERR_NO_ENCRYPTION_KEY then
    "Server: Không tìm thấy encryption key cho IP (301)"
  else if code = PLAIN_ERR_EMPTY_KEY then "Server: Encryption key rỗng cho IP (302)"
  else if code = PLAIN_ERR_IP_DENIED then "Server: IP bị từ chối - denylist (307)"
  else if code = PLAIN_ERR_IP_BLOCKED then "Server: IP bị khóa - quá nhiều lần lỗi (308)"
  else "Server trả lỗi (code " ++ toString code ++ ") trước khi thiết lập mã hóa"

/-- `readFully`: reads until so many bytes are there or a read gets nothing. What has arrived is
given in pieces; a read gets no more than one of them, and nothing at the end of the stream. -/
def readFully : Nat → List Bytes → Bytes × List Bytes
  | _, [] => ([], [])
  | wanted, piece :: pieces =>
    if wanted = 0 then ([], piece :: pieces)
    else if piece = [] then ([], pieces)
    else if wanted < piece.length then (piece.take wanted, piece.drop wanted :: pieces)
    else
      let (more, pieces) := readFully (wanted - piece.length) pieces
      (piece ++ more, pieces)

/-- `decrypt` of `AesCrypto`: `doFinal` makes nothing of nothing. -/
def decrypt (cipher : BlockCipher) (key : AesKey) (encrypted : Bytes) : Option Bytes :=
  if encrypted = [] then some [] else decryptPadded cipher.decrypt key.val encrypted

/-- What a connection that was closed at once gives. -/
def noDataMessage : String :=
  "Server đóng kết nối (không có dữ liệu). Kiểm tra IP có trong cấu hình server / " ++
    "encryption key / IP bị chặn."

/-- `receive`: one reply, or the message of the exception; `reason` is what the exception of a
failed decryption says. -/
def receive (cipher : BlockCipher) (key : AesKey) (reason : Bytes → String)
    (pieces : List Bytes) : Except String Bytes × List Bytes :=
  let (lenBuf, pieces) := readFully 4 pieces
  if lenBuf.length = 0 then (.error noDataMessage, pieces)
  else if lenBuf.length ≠ 4 then
    (.error ("Đọc length không đủ: " ++ toString lenBuf.length ++
      " byte. Server có thể đã đóng kết nối."), pieces)
  else
    let totalLen := (i32 lenBuf 0 4).val
    if totalLen = 8 then
      let (payload, pieces) := readFully 4 pieces
      if payload.length ≠ 4 then
        (.error ("Server gửi bản tin lỗi nhưng đóng sớm (đọc " ++ toString payload.length ++
          "/4 byte)."), pieces)
      else (.error (plainErrorMessage (i32 payload 0 4).val), pieces)
    else if totalLen < 4 ∨ 1024 * 1024 < totalLen then
      (.error ("Độ dài frame không hợp lệ: " ++ toString totalLen), pieces)
    else
      let payloadLen := (totalLen - 4).toNat
      let (payload, pieces) := readFully payloadLen pieces
      if payload.length ≠ payloadLen then
        (.error ("Đọc payload không đủ: " ++ toString payload.length ++ "/" ++
          toString payloadLen ++ ". Server có thể đã đóng kết nối."), pieces)
      else
        match decrypt cipher key payload with
        | none => (.error ("Giải mã thất bại: " ++ reason payload), pieces)
        | some decrypted =>
          if decrypted.length = 0 then
            (.error "Server trả bản tin rỗng. Đã ngắt kết nối.", pieces)
          else (.ok decrypted, pieces)

/-- So many calls of `receive`. -/
def receiveAll (cipher : BlockCipher) (key : AesKey) (reason : Bytes → String) :
    Nat → List Bytes → List (Except String Bytes)
  | 0, _ => []
  | calls + 1, pieces =>
    let (result, pieces) := receive cipher key reason pieces
    result :: receiveAll cipher key reason calls pieces

/-- How the server ends a connection. -/
inductive Ending
  | closed
  | plainError (code : I32)

/-- What is written at the end. -/
def Ending.bytes : Ending → Bytes
  | .closed => []
  | .plainError code => sendPlainError code

/-- What the client learns from it. -/
def Ending.message : Ending → String
  | .closed => noDataMessage
  | .plainError code => plainErrorMessage code.val

/-! ### Pieces -/

section Pieces

variable {pieces : List Bytes}

/-- Reading does not depend on the pieces. -/
theorem readFully_eq (wanted : Nat) (arrived : ∀ piece ∈ pieces, piece ≠ []) :
    (readFully wanted pieces).1 = pieces.flatten.take wanted ∧
      (readFully wanted pieces).2.flatten = pieces.flatten.drop wanted ∧
      ∀ piece ∈ (readFully wanted pieces).2, piece ≠ [] := by
  induction pieces generalizing wanted with
  | nil => simp [readFully]
  | cons piece pieces ih =>
    obtain ⟨here, later⟩ := List.forall_mem_cons.mp arrived
    rw [readFully]
    by_cases enough : wanted = 0
    · simpa [enough] using arrived
    · rw [if_neg enough, if_neg here, List.flatten_cons]
      by_cases within : wanted < piece.length
      · rw [if_pos within, List.take_append_of_le_length within.le,
          List.drop_append_of_le_length within.le]
        refine ⟨rfl, rfl, List.forall_mem_cons.mpr ⟨?_, later⟩⟩
        intro nothing
        have length := List.drop_eq_nil_iff.mp nothing
        omega
      · obtain ⟨first, second, rest⟩ := ih (wanted - piece.length) later
        have past : piece.length ≤ wanted := Nat.not_lt.mp within
        rw [if_neg within, List.take_append, List.drop_append, List.take_of_length_le past,
          List.drop_of_length_le past, List.nil_append]
        exact ⟨congrArg (piece ++ ·) first, second, rest⟩

/-- Reading the beginning of a stream. -/
theorem readFully_append {front back : Bytes} (arrived : ∀ piece ∈ pieces, piece ≠ [])
    (stream : pieces.flatten = front ++ back) :
    ∃ rest, readFully front.length pieces = (front, rest) ∧ rest.flatten = back ∧
      ∀ piece ∈ rest, piece ≠ [] := by
  obtain ⟨first, second, rest⟩ := readFully_eq front.length arrived
  rw [stream, List.take_left] at first
  rw [stream, List.drop_left] at second
  exact ⟨_, Prod.ext first rfl, second, rest⟩

end Pieces

/-! ### Replies -/

section Replies

variable {cipher : BlockCipher} {key : AesKey} {reason : Bytes → String} {pieces : List Bytes}

theorem length_encryptPadded_serialize (cipher : BlockCipher) (key : AesKey) (r : Response) :
    (cipher.encryptPadded key (serialize r)).length % 16 = 0 ∧
      0 < (cipher.encryptPadded key (serialize r)).length ∧
      (cipher.encryptPadded key (serialize r)).length < 272 := by
  obtain ⟨length, _, _, documented, small⟩ := r.fields_eq_cons
  have padded := (encryptPadded_spec cipher key (serialize r)).1
  have positive : 0 < pkcs7Missing 16 (serialize r).length := pkcs7Missing_pos (by decide) _
  have missing : pkcs7Missing 16 (serialize r).length ≤ 16 := Nat.sub_le _ _
  have blocks : (pkcs7Pad 16 (serialize r)).length % 16 = 0 := length_pkcs7Pad (by decide) _
  have whole := cipher.length_encrypt key.val _ key.property blocks
  rw [length_serialize] at padded missing positive
  refine ⟨?_, by omega, by omega⟩
  rw [BlockCipher.encryptPadded, whole]
  exact length_pkcs7Pad (by decide) _

/-- The length of a frame that is not too long is read as it was written. -/
theorem i32_leBytes {n : Nat} (small : n < 2 ^ 31) : (i32 (leBytes 4 n) 0 4).val = n := by
  have width : slice (leBytes 4 n) 0 4 = leBytes 4 n := slice_whole (length_leBytes 4 n)
  have value : leNat (leBytes 4 n) = n := by
    apply leNat_leBytes_of_lt
    omega
  rw [i32, width, SInt.read]
  dsimp only
  rw [value]
  apply Int.bmod_eq_of_le_mul_two <;> norm_num <;> omega

/-- A reply is received whole. -/
theorem receive_reply {r : Response} {back : Bytes} (reason : Bytes → String)
    (arrived : ∀ piece ∈ pieces, piece ≠ [])
    (stream : pieces.flatten = reply cipher key r ++ back) :
    ∃ rest, receive cipher key reason pieces = (.ok (serialize r), rest) ∧ rest.flatten = back ∧
      ∀ piece ∈ rest, piece ≠ [] := by
  obtain ⟨whole, positive, short⟩ := length_encryptPadded_serialize cipher key r
  obtain ⟨-, decrypts⟩ := encryptPadded_spec cipher key (serialize r)
  have nonempty : (serialize r).length ≠ 0 := by
    rw [length_serialize]
    cases r <;> exact Nat.succ_ne_zero _
  rw [reply, wrapEncryptedReply, List.append_assoc] at stream
  generalize cipher.encryptPadded key (serialize r) = encrypted at *
  obtain ⟨middle, header, stream, arrived⟩ := readFully_append arrived stream
  obtain ⟨rest, payload, stream, arrived⟩ := readFully_append arrived stream
  rw [length_leBytes] at header
  have total := i32_leBytes (n := encrypted.length + 4) (by omega)
  have ordinary : ((encrypted.length + 4 : Nat) : Int) ≠ 8 := by omega
  have valid : ¬ (((encrypted.length + 4 : Nat) : Int) < 4 ∨
      1024 * 1024 < ((encrypted.length + 4 : Nat) : Int)) := by omega
  have wanted : (((encrypted.length + 4 : Nat) : Int) - 4).toNat = encrypted.length := by omega
  have opened : decrypt cipher key encrypted = some (serialize r) := by
    rw [decrypt, if_neg (List.ne_nil_of_length_pos positive), decrypts]
  refine ⟨rest, ?_, stream, arrived⟩
  simp only [receive, header, length_leBytes, total, if_neg ordinary, if_neg valid, wanted, payload,
    opened, if_neg nonempty]
  simp

theorem receive_ending {ending : Ending} (arrived : ∀ piece ∈ pieces, piece ≠ [])
    (stream : pieces.flatten = ending.bytes) :
    (receive cipher key reason pieces).1 = .error ending.message := by
  cases ending with
  | closed =>
    obtain ⟨first, -, -⟩ := readFully_eq 4 arrived
    rw [stream, Ending.bytes, List.take_nil] at first
    simp [receive, first, Ending.message]
  | plainError code =>
    rw [Ending.bytes, sendPlainError, ← List.append_nil code.bytes] at stream
    obtain ⟨middle, header, stream, arrived⟩ := readFully_append arrived stream
    obtain ⟨rest, payload, -, -⟩ := readFully_append arrived stream
    rw [length_le32] at header
    rw [SInt.length_bytes] at payload
    have eight : (i32 (le32 8) 0 4).val = 8 := by decide
    have read : i32 code.bytes 0 4 = code := by
      rw [i32, slice_whole (SInt.length_bytes code), SInt.read_bytes]
    simp [receive, header, eight, payload, read, Ending.message]

/-- The server has written replies and ended the connection. In whatever pieces the bytes
arrive, the client receives the plaintext of each reply, in order, and then learns how the
connection has ended. -/
theorem receiveAll_of_cut (replies : List Response) (ending : Ending)
    (arrived : ∀ piece ∈ pieces, piece ≠ [])
    (cut : pieces.flatten = replies.flatMap (reply cipher key) ++ ending.bytes) :
    receiveAll cipher key reason (replies.length + 1) pieces =
      replies.map (fun r => .ok (serialize r)) ++ [.error ending.message] := by
  induction replies generalizing pieces with
  | nil =>
    rw [List.flatMap_nil, List.nil_append] at cut
    exact congrArg (fun result => [result]) (receive_ending arrived cut)
  | cons r replies ih =>
    rw [List.flatMap_cons, List.append_assoc] at cut
    obtain ⟨rest, received, stream, arrived⟩ := receive_reply reason arrived cut
    rw [List.length_cons, receiveAll, received]
    exact congrArg (Except.ok (serialize r) :: ·) (ih arrived stream)

end Replies

/-! ### A reply and an error -/

/-- One text is exchanged for the other. -/
def exchange (plain encrypted blocks : Bytes) : Bytes :=
  if blocks = plain then encrypted else if blocks = encrypted then plain else blocks

theorem exchange_exchange (plain encrypted blocks : Bytes) :
    exchange plain encrypted (exchange plain encrypted blocks) = blocks := by
  unfold exchange
  split_ifs <;> simp_all

/-- A cipher that is known for one text and one key only. -/
def exchanging (secret : String) (plain encrypted : Bytes)
    (same : encrypted.length = plain.length) : BlockCipher where
  encrypt key blocks := if key = secret then exchange plain encrypted blocks else blocks
  decrypt key blocks := if key = secret then exchange plain encrypted blocks else blocks
  length_encrypt key blocks _ _ := by
    unfold exchange
    split_ifs with _ isPlain isEncrypted
    · rw [same, isPlain]
    · rw [isEncrypted, same]
    · rfl
    · rfl
  decrypt_encrypt key blocks _ _ := by
    split_ifs
    · exact exchange_exchange plain encrypted blocks
    · rfl

/-- A `TERMINATE_RESP`. -/
def terminateResp : Response :=
  .terminate { versionId := .wrap 4 1, requestId := .wrap 8 7, sessionId := .wrap 8 9
               status := .wrap 4 0 }

/-- What AES makes of it with the key `fedcba9876543210`. -/
def terminateRespPayload : Bytes :=
  [5, 83, 239, 46, 202, 118, 141, 62, 38, 112, 144, 226, 165, 161, 68, 79, 219, 157, 72, 38, 232,
    36, 84, 98, 221, 156, 242, 202, 244, 93, 63, 167, 58, 74, 169, 131, 98, 169, 67, 61, 80, 88,
    237, 213, 130, 73, 172, 167]

/-- The key of a client. -/
def sampleKey : AesKey :=
  ⟨"fedcba9876543210", by decide +kernel⟩

/-- A cipher that does with the response what AES does. -/
def terminateRespCipher : BlockCipher :=
  exchanging sampleKey.val (pkcs7Pad 16 (serialize terminateResp)) terminateRespPayload
    (by decide +kernel)

/-- The frame that AES makes of the response, header first, keeps to its own lengths. -/
theorem selfConsistent_terminateResp :
    reply terminateRespCipher sampleKey terminateResp = [52, 0, 0, 0] ++ terminateRespPayload ∧
      SelfConsistent terminateRespCipher sampleKey terminateResp :=
  ⟨by decide +kernel, selfConsistent terminateRespCipher sampleKey terminateResp⟩

/-- A reply and the refusal of a blocked address, in three pieces. -/
theorem receiveAll_of_cut_three :
    receiveAll terminateRespCipher sampleKey (fun _ => "BadPaddingException") 2
        [[52, 0], [0, 0] ++ terminateRespPayload ++ [8], [0, 0, 0, 52, 1, 0, 0]] =
      [.ok (serialize terminateResp),
        .error "Server: IP bị khóa - quá nhiều lần lỗi (308)"] := by
  have arrived : ∀ piece ∈ [[52, 0], [0, 0] ++ terminateRespPayload ++ [8],
      [0, 0, 0, 52, 1, 0, 0]], piece ≠ [] := by decide
  have cut : [[52, 0], [0, 0] ++ terminateRespPayload ++ [8], [0, 0, 0, 52, 1, 0, 0]].flatten =
      [terminateResp].flatMap (reply terminateRespCipher sampleKey) ++
        (Ending.plainError (.wrap 4 308)).bytes := by
    decide +kernel
  exact receiveAll_of_cut [terminateResp] (.plainError (.wrap 4 308)) arrived cut

end FeClient

end TollBackend.Fe
