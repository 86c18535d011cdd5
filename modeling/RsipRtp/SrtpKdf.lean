import Mathlib.Data.List.Basic
import RsipRtp.SipText

/-!
# Cipher suites and session keys of SRTP

AES in counter mode and HMAC-SHA1 belong to other crates and are parameters.
-/

namespace RsipRtp.SrtpKdf
open SipText

abbrev Octets (n : ℕ) := { b : Bytes // b.length = n }

structure Crypto where
  /-- Byte `n` of the AES-128-CTR keystream for a key and an IV. -/
  keystream : Octets 16 → Octets 16 → ℕ → UInt8
  hmacSha1 : Octets 20 → Bytes → Octets 20

def Crypto.applyKeystream (c : Crypto) (key iv : Octets 16) (data : Bytes) : Bytes :=
  data.mapIdx (fun n b => b ^^^ c.keystream key iv n)

@[simp] theorem applyKeystream_length (c : Crypto) (key iv : Octets 16) (data : Bytes) :
    (c.applyKeystream key iv data).length = data.length := by
  simp [Crypto.applyKeystream]

theorem applyKeystream_involutive (c : Crypto) (key iv : Octets 16) (data : Bytes) :
    c.applyKeystream key iv (c.applyKeystream key iv data) = data := by
  apply List.ext_getElem
  · simp
  · intro n _ _
    simp only [Crypto.applyKeystream, List.getElem_mapIdx, UInt8.xor_assoc, UInt8.xor_self,
      UInt8.xor_zero]

inductive CryptoSuite where
  | aesCm128HmacSha1_80
  | aesCm128HmacSha1_32
deriving DecidableEq

def CryptoSuite.authTagLen : CryptoSuite → ℕ
  | .aesCm128HmacSha1_80 => 10
  | .aesCm128HmacSha1_32 => 4

theorem authTagLen_le (suite : CryptoSuite) : suite.authTagLen ≤ 20 := by
  cases suite <;> decide

structure SessionKeys where
  srtpEncKey : Octets 16
  srtpAuthKey : Octets 20
  srtpSalt : Octets 14
  srtcpEncKey : Octets 16
  srtcpAuthKey : Octets 20
  srtcpSalt : Octets 14

def saltBlock (salt : Octets 14) : Octets 16 := ⟨salt.1++[0,0],by simp [salt.2]⟩

end RsipRtp.SrtpKdf
