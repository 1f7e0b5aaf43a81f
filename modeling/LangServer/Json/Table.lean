import LangServer.Json.Basic

/-!
# Tables

A table holds entries under keys that are values; keys that are the same have one entry.  Entries
keep the order in which their keys were first put in.  Arrays and objects are no keys.
-/

namespace LangServer

/-- Entries in the order of their keys' first insertion. -/
abbrev Table (α : Type) := List (Json × α)

namespace Table

variable {α : Type}

def get? (key : Json) : Table α → Option α
  | [] => none
  | (k, v) :: rest => if k.same key then some v else get? key rest

/-- Puts an entry in, in the place of one under the same key. -/
def insert (key : Json) (value : α) : Table α → Table α
  | [] => [(key, value)]
  | (k, v) :: rest => if k.same key then (k, value) :: rest else (k, v) :: insert key value rest

def erase (key : Json) : Table α → Table α
  | [] => []
  | (k, v) :: rest => if k.same key then rest else (k, v) :: erase key rest

/-- A key that is the same as itself finds what was put in under it. -/
theorem get?_insert {key : Json} (h : key.same key = true) (value : α) (t : Table α) :
    (t.insert key value).get? key = some value := by
  induction t with
  | nil => simp [insert, get?, h]
  | cons e rest ih =>
    by_cases hk : e.1.same key = true
    · simp [insert, get?, hk]
    · simp [insert, get?, hk, ih]

/-- Keys keep their places when an entry is put in; a new key comes last. -/
theorem map_fst_insert (key : Json) (value : α) (t : Table α) :
    (t.insert key value).map Prod.fst =
      if t.any (fun e => e.1.same key) then t.map Prod.fst else t.map Prod.fst ++ [key] := by
  induction t with
  | nil => simp [insert]
  | cons e rest ih =>
    by_cases hk : e.1.same key = true
    · simp [insert, hk]
    · have hk : e.1.same key = false := by simpa using hk
      by_cases hr : rest.any (fun e => e.1.same key) = true
      · rw [if_pos hr] at ih
        rw [if_pos (by simpa [hk] using hr)]
        simp [insert, hk, ih]
      · rw [if_neg hr] at ih
        rw [if_neg (by simpa [hk] using hr)]
        simp [insert, hk, ih]

/-! ### Texts as keys -/

/-- No key has two entries. -/
def Distinct (t : Table α) : Prop :=
  (t.map Prod.fst).Nodup

theorem get?_str_eq_none {a : String} {t : Table α} (h : Json.str a ∉ t.map Prod.fst) :
    t.get? (.str a) = none := by
  induction t with
  | nil => rfl
  | cons e rest ih =>
    obtain ⟨hne, hrest⟩ := not_or.1 (fun hm => h (List.mem_cons.2 hm))
    have hk : ¬ e.1.same (.str a) = true := fun hk => hne (Json.same_str.1 hk).symm
    simp [get?, hk, ih hrest]

theorem get?_insert_str (a b : String) (value : α) (t : Table α) :
    (t.insert (.str a) value).get? (.str b) = if b = a then some value else t.get? (.str b) := by
  by_cases hba : b = a
  · subst hba
    rw [if_pos rfl, get?_insert (Json.same_str.2 rfl)]
  · rw [if_neg hba]
    induction t with
    | nil => simp [insert, get?, Json.same_str, Ne.symm hba]
    | cons e rest ih =>
      by_cases hk : e.1.same (.str a) = true
      · have he : e.1 = .str a := Json.same_str.1 hk
        have hb : ¬ e.1.same (.str b) = true := by simp [Json.same_str, he, Ne.symm hba]
        simp [insert, get?, hk, hb]
      · simp [insert, get?, hk, ih]

theorem get?_erase_str {t : Table α} (ht : t.Distinct) (a b : String) :
    (t.erase (.str a)).get? (.str b) = if b = a then none else t.get? (.str b) := by
  induction t with
  | nil => simp [erase, get?]
  | cons e rest ih =>
    obtain ⟨hnew, hrest⟩ := List.nodup_cons.1 ht
    by_cases hk : e.1.same (.str a) = true
    · have he : e.1 = .str a := Json.same_str.1 hk
      by_cases hba : b = a
      · subst hba
        rw [erase, if_pos hk, if_pos rfl]
        exact get?_str_eq_none (he ▸ hnew)
      · have hb : ¬ e.1.same (.str b) = true := by simp [Json.same_str, he, Ne.symm hba]
        simp [erase, get?, hk, hb, hba]
    · by_cases hba : b = a
      · subst hba
        simp [erase, get?, hk, ih hrest]
      · simp [erase, get?, hk, ih hrest, hba]

theorem Distinct.insert_str {t : Table α} (ht : t.Distinct) (a : String) (value : α) :
    (t.insert (.str a) value).Distinct := by
  rw [Distinct, map_fst_insert]
  split
  · exact ht
  · rename_i hany
    refine List.nodup_append.2 ⟨ht, by simp, ?_⟩
    intro k hk k' hk' heq
    obtain ⟨e, he, rfl⟩ := List.mem_map.1 hk
    refine hany (List.any_eq_true.2 ⟨e, he, Json.same_str.2 ?_⟩)
    exact heq.trans (List.mem_singleton.1 hk')

theorem Distinct.erase {t : Table α} (ht : t.Distinct) (key : Json) : (t.erase key).Distinct := by
  have hsub : (t.erase key).Sublist t := by
    clear ht
    induction t with
    | nil => exact List.Sublist.slnil
    | cons e rest ih =>
      by_cases hk : e.1.same key = true
      · simp [Table.erase, hk]
      · simpa [Table.erase, hk] using ih
  exact ht.sublist (hsub.map Prod.fst)

end Table

/-- The fault of an array or an object in the place of a key. -/
def Json.notKey (v : Json) : Fault :=
  .wrongKind ("unhashable type: '" ++ v.kindName ++ "'")

/-- The entry of a list of named things under a key of any kind. -/
def Json.lookupIn {α : Type} (key : Json) (entries : List (String × α)) : Outcome (Option α) :=
  match key with
  | .str name => .ok (entries.lookup name)
  | v => if v.isKey then .ok none else .error v.notKey

theorem Json.lookupIn_str {α : Type} (name : String) (entries : List (String × α)) :
    (Json.str name).lookupIn entries = .ok (entries.lookup name) := rfl

end LangServer
