import Announce.Proofs.JsonText
import Announce.Proofs.Lines
import Announce.Proofs.Listing
import Announce.Proofs.Spelling

/-!
# What a printed neighbor list tells

The bytes that the decoder prints tell which neighbors it has found, and whether it has
found a record at all.  The bare values are the exception: they are no bytes at all both
for a payload without a record and for an empty list.
-/

namespace Announce

/-! ## Identifiers -/

namespace PeerId

theorem map_length_toHex (ids : List PeerId) :
    (ids.map toHex).map String.length = List.replicate ids.length 16 := by
  simp only [List.map_map, Function.comp_def, length_toHex, List.map_const']

theorem isLine_toHex (id : PeerId) : IsLine id.toHex := by
  intro newline
  exact absurd (Hex.isDigit_of_mem_encode newline) (by decide)

theorem toJson_injective : Function.Injective toJson := fun _ _ same =>
  toHex_injective (Json.string.inj same)

end PeerId

/-! ## Tables -/

theorem isRegular_neighborGrid (ids : List PeerId) : (neighborGrid ids).IsRegular := by
  intro row member
  rcases List.mem_mapIdx.mp member with ⟨index, bound, rfl⟩
  rfl

theorem isLine_toString (number : Nat) : IsLine (toString number) := by
  intro newline
  exact absurd (isDigit_of_mem_toString newline) (by decide)

theorem isLine_of_mem_neighborGrid (ids : List PeerId) :
    ∀ line ∈ (neighborGrid ids).lines, IsLine line := by
  have header : ∀ cell ∈ ["#", "PEER ID"], IsLine cell := by decide
  apply Text.Grid.isLine_of_mem_lines header
  intro row member cell cellMember
  rcases List.mem_mapIdx.mp member with ⟨index, bound, rfl⟩
  simp only [List.mem_cons, List.not_mem_nil, or_false] at cellMember
  rcases cellMember with rfl | rfl
  · exact isLine_toString index
  · exact PeerId.isLine_toHex _

/-- The lengths of the cells say no more than the number of identifiers. -/
theorem shape_neighborGrid {ids ids' : List PeerId} (length : ids.length = ids'.length) :
    (neighborGrid ids).shape = (neighborGrid ids').shape := by
  apply List.ext_getElem
  · simp [Text.Grid.shape, neighborGrid, length]
  · intro index bound bound'
    simp [Text.Grid.shape, neighborGrid, PeerId.length_toHex]

/-- The identifiers of a table can be read off its lines. -/
theorem ids_eq_of_lines_neighborGrid {ids ids' : List PeerId}
    (same : (neighborGrid ids).lines = (neighborGrid ids').lines) : ids = ids' := by
  have length : ids.length = ids'.length := by
    have count := congrArg List.length same
    simp only [Text.Grid.length_lines, neighborGrid, List.length_mapIdx] at count
    omega
  have rows : (neighborGrid ids).rows = (neighborGrid ids').rows :=
    Text.Grid.rows_eq_of_lines (isRegular_neighborGrid ids) rfl (shape_neighborGrid length) same
  apply List.ext_getElem length
  intro index bound bound'
  have row := congrArg (·[index]?) rows
  simp only [neighborGrid, List.getElem?_mapIdx, List.getElem?_eq_getElem bound,
    List.getElem?_eq_getElem bound', Option.map_some, Option.some.injEq, List.cons.injEq] at row
  exact PeerId.toHex_injective row.2.1

/-! ## Reports -/

namespace DecodeReport

theorem isPlain_toJson (report : DecodeReport) : report.toJson.IsPlain := by
  refine .map fun field member => ?_
  simp only [List.mem_cons, List.not_mem_nil, or_false] at member
  rcases member with rfl | rfl | rfl
  · exact .boolean _
  · exact .nat _
  · cases report.neighbors with
    | none => exact .null
    | some ids =>
        refine .sequence fun item listed => ?_
        rcases List.mem_map.mp listed with ⟨id, -, rfl⟩
        exact .string _

theorem toJson_injective : Function.Injective toJson := by
  rintro ⟨neighbors⟩ ⟨neighbors'⟩ same
  have shown := congrArg (Json.field? "neighbors") same
  change some (Json.ofOption _ neighbors) = some (Json.ofOption _ neighbors') at shown
  rw [Option.some.injEq] at shown
  cases neighbors with
  | none =>
      cases neighbors' with
      | none => rfl
      | some ids' => cases shown
  | some ids =>
      cases neighbors' with
      | none => cases shown
      | some ids' =>
          rw [PeerId.toJson_injective.list_map (Json.sequence.inj shown)]

theorem toBytes_pretty_inj {ids ids' : List PeerId}
    (same : (render ⟨some ids⟩ .pretty).toBytes = (render ⟨some ids'⟩ .pretty).toBytes) :
    ids = ids' := by
  have texts := congrArg String.toList (Output.text_eq_of_ofLines same)
  simp only [String.toList_append, List.append_assoc] at texts
  have ends : ∀ rest, EndsNumber (" neighbors=[".toList ++ rest) :=
    fun rest => endsNumber_cons (by decide)
  rcases separates_number _ _ (ends _) (ends _) (List.append_cancel_left texts) with
    ⟨count, later⟩
  have listed := List.append_cancel_right (List.append_cancel_left later)
  have length : ids.length = ids'.length := count
  have lengths : (ids.map PeerId.toHex).map String.length =
      (ids'.map PeerId.toHex).map String.length := by
    rw [PeerId.map_length_toHex, PeerId.map_length_toHex, length]
  exact PeerId.toHex_injective.list_map
    (texts_eq_of_intercalate lengths (String.toList_inj.mp listed))

theorem toBytes_pretty_ne (ids : List PeerId) :
    (render ⟨some ids⟩ .pretty).toBytes ≠ (render ⟨none⟩ .pretty).toBytes := by
  intro same
  have texts := congrArg String.toList (Output.text_eq_of_ofLines same)
  simp only [String.toList_append, List.append_assoc] at texts
  have sixth := congrArg (·[6]?) texts
  have different : some 't' = some 'f' := sixth
  exact absurd different (by decide)

theorem toBytes_table (ids : List PeerId) :
    (render ⟨some ids⟩ .table).toBytes = (Output.ofLines (neighborGrid ids).lines).toBytes := by
  have written := Text.Grid.toBytes_ofLines_render (neighborGrid ids) []
  rw [List.append_nil] at written
  exact written

theorem toBytes_table_inj {ids ids' : List PeerId}
    (same : (render ⟨some ids⟩ .table).toBytes = (render ⟨some ids'⟩ .table).toBytes) :
    ids = ids' := by
  rw [toBytes_table, toBytes_table] at same
  have lines := Output.lines_eq_of_ofLines (isLine_of_mem_neighborGrid ids)
    (isLine_of_mem_neighborGrid ids') same
  exact ids_eq_of_lines_neighborGrid lines

theorem toBytes_table_ne (ids : List PeerId) :
    (render ⟨some ids⟩ .table).toBytes ≠ (render ⟨none⟩ .table).toBytes := by
  intro same
  rw [toBytes_table] at same
  have sentence : ∀ line ∈ ["no direct-neighbor record"], IsLine line := by decide
  have lines := Output.lines_eq_of_ofLines (isLine_of_mem_neighborGrid ids) sentence same
  have count := congrArg List.length lines
  rw [Text.Grid.length_lines, List.length_singleton] at count
  omega

/-- The bare values tell the identifiers, but not whether there was a list of them. -/
theorem getD_eq_of_toBytes_raw {left right : DecodeReport}
    (same : (left.render .raw).toBytes = (right.render .raw).toBytes) :
    left.neighbors.getD [] = right.neighbors.getD [] := by
  have areLines : ∀ report : DecodeReport,
      ∀ line ∈ (report.neighbors.getD []).map PeerId.toHex, IsLine line := by
    intro report line member
    rcases List.mem_map.mp member with ⟨id, -, rfl⟩
    exact PeerId.isLine_toHex id
  exact PeerId.toHex_injective.list_map
    (Output.lines_eq_of_ofLines (areLines left) (areLines right) same)

/-- A format tells all reports apart if it does so for lists, and if no list is printed
like a missing one. -/
theorem eq_of_toBytes_render {format : Format}
    (lists : ∀ {ids ids' : List PeerId},
      (render ⟨some ids⟩ format).toBytes = (render ⟨some ids'⟩ format).toBytes → ids = ids')
    (missing : ∀ ids, (render ⟨some ids⟩ format).toBytes ≠ (render ⟨none⟩ format).toBytes)
    {left right : DecodeReport}
    (same : (left.render format).toBytes = (right.render format).toBytes) : left = right := by
  rcases left with ⟨_ | ids⟩ <;> rcases right with ⟨_ | ids'⟩
  · rfl
  · exact absurd same.symm (missing ids')
  · exact absurd same (missing ids)
  · rw [lists same]

/-- Every format but the bare values tells two reports apart. -/
theorem toBytes_render_inj {format : Format} (shown : format ≠ .raw) {left right : DecodeReport}
    (same : (left.render format).toBytes = (right.render format).toBytes) : left = right := by
  cases format with
  | json =>
      apply toJson_injective
      exact left.isPlain_toJson.eq_of_compact_eq right.isPlain_toJson
        (Output.text_eq_of_ofLines same)
  | table => exact eq_of_toBytes_render toBytes_table_inj toBytes_table_ne same
  | pretty => exact eq_of_toBytes_render toBytes_pretty_inj toBytes_pretty_ne same
  | raw => exact absurd rfl shown

theorem eq_or_of_getD_eq {left right : DecodeReport}
    (same : left.neighbors.getD [] = right.neighbors.getD []) :
    left = right ∨ (left.neighbors.getD [] = [] ∧ right.neighbors.getD [] = []) := by
  rcases left with ⟨_ | ids⟩ <;> rcases right with ⟨_ | ids'⟩
  · exact .inl rfl
  · exact .inr ⟨rfl, same.symm⟩
  · exact .inr ⟨same, rfl⟩
  · exact .inl (congrArg (fun ids => DecodeReport.mk (some ids)) same)

/-- Two reports are printed alike exactly if they are the same, or if bare values are
asked for and neither of them has any. -/
theorem toBytes_render_eq_iff {left right : DecodeReport} {format : Format} :
    (left.render format).toBytes = (right.render format).toBytes ↔
      left = right ∨
        (format = .raw ∧ left.neighbors.getD [] = [] ∧ right.neighbors.getD [] = []) := by
  constructor
  · intro same
    by_cases bare : format = .raw
    · subst bare
      exact (eq_or_of_getD_eq (getD_eq_of_toBytes_raw same)).imp_right fun none => ⟨rfl, none⟩
    · exact .inl (toBytes_render_inj bare same)
  · rintro (rfl | ⟨rfl, leftNone, rightNone⟩)
    · rfl
    · rw [render, render, leftNone, rightNone]

end DecodeReport

/-! ## Runs -/

theorem output_run_decode (settings : Invocation) {host : Host} {source : PayloadOptions}
    {payload : Bytes} (loaded : source.load host = .ok payload) :
    (Invocation.run host { settings with command := .decode source }).output =
      DecodeReport.render ⟨(Neighbors.decode payload).value⟩ (settings.format.getD .default) := by
  have value := value_run_decode host (settings.format.getD .default) source
  rw [loaded] at value
  rw [← value_decodeReport]
  exact (Outcome.succeeds_ofResult value).output

/-- Two decoders print the same exactly if they have found the same, or if bare values
are asked for and neither of them has found any neighbor.  A missing list and an empty
one are so told apart in all other formats, and two lists in all formats. -/
theorem decode_output_eq_iff (settings : Invocation) {host host' : Host}
    {source source' : PayloadOptions} {payload payload' : Bytes}
    (loaded : source.load host = .ok payload) (loaded' : source'.load host' = .ok payload') :
    (Invocation.run host { settings with command := .decode source }).output.toBytes =
        (Invocation.run host' { settings with command := .decode source' }).output.toBytes ↔
      (Neighbors.decode payload).value = (Neighbors.decode payload').value ∨
        (settings.format = some .raw ∧ (Neighbors.decode payload).value.getD [] = [] ∧
          (Neighbors.decode payload').value.getD [] = []) := by
  rw [output_run_decode settings loaded, output_run_decode settings loaded',
    DecodeReport.toBytes_render_eq_iff, DecodeReport.mk.injEq]
  have bare : settings.format.getD .default = .raw ↔ settings.format = some .raw := by
    cases settings.format with
    | none => simp [Format.default]
    | some format => simp
  rw [bare]

/-- Lines of named values tell a payload without a record from one with an empty list. -/
theorem decode_output_eq_iff_pretty :
    let host : Host := ⟨"x86_64-linux", fun _ => .error .notFound⟩
    let settings : Invocation := ⟨.version false, some .pretty, .text, .warn⟩
    (PayloadOptions.load host ⟨some "0102dead", none⟩ = .ok [1, 2, 0xDE, 0xAD] ∧
      PayloadOptions.load host ⟨some "0x0400", none⟩ = .ok [4, 0]) ∧
    (Invocation.run host
        { settings with command := .decode ⟨some "0102dead", none⟩ }).output.toBytes ≠
      (Invocation.run host
        { settings with command := .decode ⟨some "0x0400", none⟩ }).output.toBytes := by
  intro host settings
  have loaded : PayloadOptions.load host ⟨some "0102dead", none⟩ = .ok [1, 2, 0xDE, 0xAD] := by
    decide +kernel
  have loaded' : PayloadOptions.load host ⟨some "0x0400", none⟩ = .ok [4, 0] := by
    decide +kernel
  refine ⟨⟨loaded, loaded'⟩, fun same => ?_⟩
  rcases (decode_output_eq_iff settings loaded loaded').mp same with found | ⟨bare, -⟩
  · exact absurd found (by decide +kernel)
  · cases bare

/-- The bare values of a payload without a record and of an empty list are the same. -/
theorem raw_output_of_absent_and_empty :
    let host : Host := ⟨"x86_64-linux", fun _ => .error .notFound⟩
    let absent := runProgram host ["--format", "raw", "decode", "--hex", "0102dead"]
    let empty := runProgram host ["--format", "raw", "decode", "--hex", "0102dead0400"]
    absent.exitCode = 0 ∧ empty.exitCode = 0 ∧ absent.output.toBytes = empty.output.toBytes ∧
      (Neighbors.decode [1, 2, 0xDE, 0xAD]).value = none ∧
      (Neighbors.decode [1, 2, 0xDE, 0xAD, 4, 0]).value = some [] := by
  decide +kernel

end Announce
