import Mathlib.Data.List.Perm.Basic
import Mathlib.Data.List.Range

/-! # Places of items

Equal items of a list are told apart by their places. A collection drawn from a growing
list is given by the places of its items.
-/

namespace VideoAnalysis.Foundation

variable {Item : Type*}

def AtPlaces (source : List Item) (places : List Nat) (items : List Item) : Prop :=
  places.map (fun place => source[place]?) = items.map some

namespace AtPlaces

variable {source : List Item} {places : List Nat} {items : List Item}

theorem nil (source : List Item) : AtPlaces source [] [] := rfl

theorem lt_length (atPlaces : AtPlaces source places items) :
    ∀ place ∈ places, place < source.length := by
  intro place member
  have read : source[place]? ∈ places.map (fun place => source[place]?) :=
    List.mem_map_of_mem (f := fun place => source[place]?) member
  rw [atPlaces] at read
  rcases List.mem_map.mp read with ⟨item, _, isItem⟩
  exact (List.getElem?_eq_some_iff.mp isItem.symm).1

theorem grow (atPlaces : AtPlaces source places items) (more : List Item) :
    AtPlaces (source ++ more) places items := by
  rw [AtPlaces, ← atPlaces]
  apply List.map_congr_left
  intro place member
  exact List.getElem?_append_left (atPlaces.lt_length place member)

theorem append {otherPlaces : List Nat} {otherItems : List Item}
    (first : AtPlaces source places items) (second : AtPlaces source otherPlaces otherItems) :
    AtPlaces source (places ++ otherPlaces) (items ++ otherItems) := by
  rw [AtPlaces, List.map_append, List.map_append, first, second]

theorem last (source : List Item) (item : Item) :
    AtPlaces (source ++ [item]) [source.length] [item] := by
  simp [AtPlaces]

variable {item : Item}

theorem single {place : Nat} (found : source[place]? = some item) :
    AtPlaces source [place] [item] := by
  simp [AtPlaces, found]

theorem eraseIdx (atPlaces : AtPlaces source places items) (index : Nat) :
    AtPlaces source (places.eraseIdx index) (items.eraseIdx index) := by
  rw [AtPlaces, ← List.eraseIdx_map, ← List.eraseIdx_map, atPlaces]

theorem exists_place (atPlaces : AtPlaces source places items) {index : Nat}
    (found : items[index]? = some item) :
    ∃ place, places[index]? = some place ∧ source[place]? = some item := by
  have read := congrArg (fun list => list[index]?) atPlaces
  simp only [List.getElem?_map, found, Option.map_some, Option.map_eq_some_iff] at read
  exact read

theorem cons_inv {rest : List Item} (atPlaces : AtPlaces source places (item :: rest)) :
    ∃ place others, places = place :: others ∧ AtPlaces source [place] [item] ∧
      AtPlaces source others rest := by
  cases places with
  | nil => cases atPlaces
  | cons place others =>
    rw [AtPlaces, List.map_cons, List.map_cons, List.cons.injEq] at atPlaces
    exact ⟨place, others, rfl, by simp [AtPlaces, atPlaces.1], atPlaces.2⟩

end AtPlaces

end VideoAnalysis.Foundation
