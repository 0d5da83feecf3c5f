import LotusAdvise.Advisory.IntentPlan
import LotusAdvise.Advisory.Suitability
import LotusAdvise.Foundations.Weights

/-! # The shelf row that decides

The allocation of a state takes the first shelf row of an instrument. The plan of the trades and
the suitability checks take the last one.
-/

namespace LotusAdvise.Advisory

section Lookups

variable (shelf : List ShelfEntry) (instrumentId : String)

/-- The shelf rows of an instrument. -/
def shelfRows : List ShelfEntry := shelf.filter fun entry => entry.instrumentId = instrumentId

theorem firstShelfEntry_eq : firstShelfEntry shelf instrumentId =
    (shelfRows shelf instrumentId).head? :=
  List.head?_filter.symm

/-- The plan and the suitability checks look up the same row. -/
theorem shelfByInstrument_eq_shelfIndex : shelfByInstrument shelf instrumentId =
    Dict.get? (shelfIndex shelf) instrumentId := rfl

theorem shelfByInstrument_eq : shelfByInstrument shelf instrumentId =
    (shelfRows shelf instrumentId).getLast? := by
  rw [shelfByInstrument, Dict.get?_ofItems, List.filter_map, List.getLast?_map, Option.map_map]
  exact Option.map_id'

/-- One shelf row decides for the whole simulation exactly if the first and the last row of each
instrument say the same. -/
theorem one_shelf_row_iff :
    (∀ instrumentId, firstShelfEntry shelf instrumentId = shelfByInstrument shelf instrumentId ∧
        shelfByInstrument shelf instrumentId = Dict.get? (shelfIndex shelf) instrumentId) ↔
      ∀ instrumentId, (shelfRows shelf instrumentId).head? =
        (shelfRows shelf instrumentId).getLast? := by
  refine forall_congr' fun instrumentId => ?_
  rw [firstShelfEntry_eq, ← shelfByInstrument_eq]
  exact and_iff_left (shelfByInstrument_eq_shelfIndex shelf instrumentId)

end Lookups

namespace RepeatedSample

/-- A fund that is banned in one row and approved in another one. -/
def shelf : List ShelfEntry := [
  { instrumentId := "FUND", status := .banned, assetClass := "FUND", issuerId := some "I1" },
  { instrumentId := "FUND", status := .approved, assetClass := "EQUITY", issuerId := some "I2" }]

/-- It is allocated as in the first row, and traded and checked as in the last one. -/
theorem rows_differ :
    ¬ ∀ instrumentId, firstShelfEntry shelf instrumentId =
        shelfByInstrument shelf instrumentId ∧
      shelfByInstrument shelf instrumentId =
        Dict.get? (shelfIndex shelf) instrumentId := by
  intro h
  exact absurd (h "FUND").1 (by decide +kernel)

end RepeatedSample

end LotusAdvise.Advisory
