/-
NamedCapture/Members.lean

Values under keys.  A key has one value, and the keys stand in the order in which
they came first.
-/

namespace NamedCapture.Members

variable {β : Type}

/-- Puts a value under a key: in the place of its value if the key has one, and
at the end if not. -/
def insert (key : String) (value : β) : List (String × β) → List (String × β)
  | [] => [(key, value)]
  | m :: ms => if m.1 = key then (key, value) :: ms else m :: insert key value ms

/-- Puts every value under its key, one after the other: the last value of a key
stands in the place of the first. -/
def collect (ms : List (String × β)) : List (String × β) :=
  ms.foldl (fun collected m => insert m.1 m.2 collected) []

theorem insert_of_not_mem {key : String} {ms : List (String × β)} (h : key ∉ ms.map Prod.fst)
    (value : β) : insert key value ms = ms ++ [(key, value)] := by
  induction ms with
  | nil => rfl
  | cons m ms ih =>
    rw [List.map_cons, List.mem_cons, not_or] at h
    rw [insert, if_neg (Ne.symm h.1), ih h.2, List.cons_append]

/-- New keys come behind those that are there. -/
theorem foldl_insert {ms collected : List (String × β)}
    (h : ((collected ++ ms).map Prod.fst).Nodup) :
    ms.foldl (fun collected m => insert m.1 m.2 collected) collected = collected ++ ms := by
  induction ms generalizing collected with
  | nil => rw [List.foldl_nil, List.append_nil]
  | cons m ms ih =>
    have hnew : m.1 ∉ collected.map Prod.fst := by
      rw [List.map_append, List.map_cons, List.nodup_append] at h
      exact fun hmem => h.2.2 _ hmem _ List.mem_cons_self rfl
    rw [List.append_cons] at h
    rw [List.foldl_cons, insert_of_not_mem hnew, ih h, ← List.append_cons]

/-- Where no key comes twice, nothing is replaced. -/
theorem collect_of_nodup {ms : List (String × β)} (h : (ms.map Prod.fst).Nodup) :
    collect ms = ms := by
  rw [collect, foldl_insert (by rwa [List.nil_append]), List.nil_append]

end NamedCapture.Members
