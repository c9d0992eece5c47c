import Onlyboxes.ForStd.Text

/-!
# Random ids

`generateUUIDv4`, which names commands, connections, workers and tasks. That it never
repeats an id is assumed where ids are drawn.
-/

namespace Onlyboxes.Console

open Text

/-- `%02x`. -/
def hexByte (b : Nat) : List Char := [Nat.digitChar (b / 16 % 16), Nat.digitChar (b % 16)]

/-- `generateUUIDv4` from the bytes `rand.Read` gives. -/
def generateUUIDv4 (raw : Fin 16 → Fin 256) : String :=
  let byte : Fin 16 → Nat := fun i =>
    if i = 6 then (raw i).val % 16 + 64 else if i = 8 then (raw i).val % 64 + 128 else (raw i).val
  String.ofList ((List.finRange 16).flatMap fun i =>
    if i = 4 ∨ i = 6 ∨ i = 8 ∨ i = 10 then '-' :: hexByte (byte i) else hexByte (byte i))

theorem isSpace_digitChar {n : Nat} (h : n < 16) : isSpace (Nat.digitChar n) = false := by
  have hall : ∀ n < 16, isSpace (Nat.digitChar n) = false := by decide
  exact hall n h

theorem isSpace_of_mem_hexByte {b : Nat} {ch : Char} (h : ch ∈ hexByte b) : isSpace ch = false := by
  simp only [hexByte, List.mem_cons, List.not_mem_nil, or_false] at h
  rcases h with rfl | rfl
  · exact isSpace_digitChar (Nat.mod_lt _ (by decide))
  · exact isSpace_digitChar (Nat.mod_lt _ (by decide))

/-- Random ids are trimmed. -/
theorem trimSpace_generateUUIDv4 (raw : Fin 16 → Fin 256) :
    trimSpace (generateUUIDv4 raw) = generateUUIDv4 raw := by
  apply trimSpace_of_no_space
  intro ch hch
  rw [generateUUIDv4, String.toList_ofList, List.mem_flatMap] at hch
  obtain ⟨i, -, hch⟩ := hch
  split at hch
  · rcases List.mem_cons.mp hch with rfl | hch
    · decide
    · exact isSpace_of_mem_hexByte hch
  · exact isSpace_of_mem_hexByte hch

theorem generateUUIDv4_ne_empty (raw : Fin 16 → Fin 256) : generateUUIDv4 raw ≠ "" := by
  intro h
  have hlist := congrArg String.toList h
  rw [generateUUIDv4, String.toList_ofList] at hlist
  nomatch hlist

end Onlyboxes.Console
