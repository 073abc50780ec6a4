import RoundRobin.Context.Memory
import Mathlib.Algebra.Group.Nat.Defs

/-!
# Reading back what was stored

Bytes that were stored are read back as they were, bytes elsewhere are left alone, and a number is
recovered from its bytes. `Words` says which words lie from an address upwards.
-/

namespace RoundRobin

@[simp]
theorem length_toBytes (count value : Nat) : (toBytes count value).length = count := by
  induction count generalizing value with
  | zero => rfl
  | succ count ih => simp [toBytes, ih]

theorem ofBytes_toBytes (count value : Nat) :
    ofBytes (toBytes count value) = value % 256 ^ count := by
  induction count generalizing value with
  | zero => simp [toBytes, ofBytes, Nat.mod_one]
  | succ count ih =>
    have low : (UInt8.ofNat (value % 256)).toNat = value % 256 := by
      rw [UInt8.toNat_ofNat']
      omega
    rw [toBytes, ofBytes, ih, low, Nat.pow_succ', Nat.mod_mul]

theorem ofBytes_toBytes_of_lt {count value : Nat} (fits : value < 256 ^ count) :
    ofBytes (toBytes count value) = value := by
  rw [ofBytes_toBytes, Nat.mod_eq_of_lt fits]

/-- The bytes of a number are those of its low part followed by those of its high part. -/
theorem toBytes_append (low high value : Nat) :
    toBytes (low + high) value = toBytes low value ++ toBytes high (value / 256 ^ low) := by
  induction low generalizing value with
  | zero => simp [toBytes]
  | succ low ih =>
    rw [Nat.succ_add, toBytes, toBytes, ih, List.cons_append, Nat.div_div_eq_div_mul,
      Nat.pow_succ']

namespace Memory

variable {m m' : Memory} {address count : Nat}

theorem store_byte_outside {bytes : List UInt8} {a : Nat}
    (outside : a < address ∨ address + bytes.length ≤ a) :
    (m.store address bytes).byte a = m.byte a := by
  rw [store]
  dsimp only
  split
  · rw [List.getElem?_eq_none (by omega), Option.getD_none]
  · rfl

/-- Bytes that are the same before a store are the same after it. -/
theorem store_byte_congr {a : Nat} (bytes : List UInt8) (same : m'.byte a = m.byte a) :
    (m'.store address bytes).byte a = (m.store address bytes).byte a := by
  simp only [store, same]

@[simp]
theorem length_load (m : Memory) (address count : Nat) : (m.load address count).length = count := by
  simp [load]

/-- Loading looks at the bytes from `address` upwards and at no others. -/
theorem load_congr (same : ∀ a, address ≤ a → a < address + count → m'.byte a = m.byte a) :
    m'.load address count = m.load address count := by
  apply List.map_congr_left
  intro i inside
  exact same (address + i) (by omega) (by have := List.mem_range.mp inside; omega)

theorem load_store (m : Memory) (address : Nat) (bytes : List UInt8) :
    (m.store address bytes).load address bytes.length = bytes := by
  apply List.ext_getElem
  · simp
  · intro i _ inside
    simp [load, store, inside]

theorem load_append (m : Memory) (address low high : Nat) :
    m.load address (low + high) = m.load address low ++ m.load (address + low) high := by
  simp [load, List.range_add, Nat.add_assoc]

/-- Where a number lies, its low part and its high part lie one above the other. -/
theorem load_parts {low high value : Nat}
    (held : m.load address (low + high) = toBytes (low + high) value) :
    m.load address low = toBytes low value ∧
      m.load (address + low) high = toBytes high (value / 256 ^ low) := by
  rw [load_append, toBytes_append] at held
  exact List.append_inj held (by simp)

/-- The bytes from `address` upwards are the words `ws`, lowest first. -/
def Words (m : Memory) (address : Nat) : List UInt64 → Prop
  | [] => True
  | w :: ws => m.load address 8 = toBytes 8 w.toNat ∧ m.Words (address + 8) ws

theorem loadWord_eq {w : UInt64} (held : m.load address 8 = toBytes 8 w.toNat) :
    m.loadWord address = w := by
  rw [loadWord, held, ofBytes_toBytes_of_lt w.toNat_lt, UInt64.ofNat_toNat]

theorem storeWord_byte_outside {w : UInt64} {a : Nat} (outside : a < address ∨ address + 8 ≤ a) :
    (m.storeWord address w).byte a = m.byte a :=
  store_byte_outside (by simpa using outside)

theorem load_storeWord (m : Memory) (address : Nat) (w : UInt64) :
    (m.storeWord address w).load address 8 = toBytes 8 w.toNat := by
  have stored := m.load_store address (toBytes 8 w.toNat)
  rwa [length_toBytes] at stored

theorem Words.congr {ws : List UInt64} (held : m.Words address ws)
    (same : ∀ a, address ≤ a → a < address + 8 * ws.length → m'.byte a = m.byte a) :
    m'.Words address ws := by
  induction ws generalizing address with
  | nil => trivial
  | cons w ws ih =>
    rw [List.length_cons] at same
    refine ⟨?_, ih held.2 ?_⟩
    · rw [load_congr fun a above below => same a above (by omega)]
      exact held.1
    · intro a above below
      exact same a (by omega) (by omega)

theorem storeWords_byte_outside {ws : List UInt64} {a : Nat}
    (outside : a < address ∨ address + 8 * ws.length ≤ a) :
    (m.storeWords address ws).byte a = m.byte a := by
  induction ws generalizing m address with
  | nil => rfl
  | cons w ws ih =>
    rw [List.length_cons] at outside
    rw [storeWords, ih (by omega), storeWord_byte_outside (by omega)]

theorem words_storeWords (m : Memory) (address : Nat) (ws : List UInt64) :
    (m.storeWords address ws).Words address ws := by
  induction ws generalizing m address with
  | nil => trivial
  | cons w ws ih =>
    refine ⟨?_, ih (m.storeWord address w) (address + 8)⟩
    rw [storeWords, load_congr fun a _ below => storeWords_byte_outside (.inl below)]
    exact m.load_storeWord address w

end Memory

end RoundRobin
