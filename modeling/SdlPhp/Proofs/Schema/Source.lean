import SdlPhp.Proofs.Text.Pieces
import SdlPhp.Proofs.World.Files
import SdlPhp.Schema.Source

/-!
# Schemas in files

A schema whose text stands in a single file is the schema that the text describes, whatever the name
of the file is: a name that is not that of a schema file only makes for a warning. Main statement:
`run_schema_file`.
-/

namespace SdlPhp.Source

variable {τ : Type} {w : World} {source sdl : String} {bytes : ByteArray}

theorem decode?_of_not_mem (h : Text.decode? bytes = some sdl) (hsdl : '\r' ∉ sdl.toList) :
    decode? bytes = some sdl := by
  rw [decode?, h, Option.map_some, Text.unifyLineEnds_of_not_mem hsdl, String.ofList_toList]

theorem text_eq_fromDirectory (hurl : Url.isUrl source = .ok false)
    (hdir : w.isDirectory (Path.ofText source) = .ok true) (timeout : τ) :
    text w source timeout = fromDirectory w (Path.ofText source) := by
  simp only [text, isUrl, hurl, asked, hdir, pure_bind, Bool.false_eq_true, if_false, if_true]

theorem text_eq_fromFile (hurl : Url.isUrl source = .ok false)
    (hdir : w.isDirectory (Path.ofText source) = .ok false) (timeout : τ) :
    text w source timeout = fromFile w (Path.ofText source) := by
  simp only [text, isUrl, hurl, asked, hdir, pure_bind, Bool.false_eq_true, if_false]

theorem text_of_file (hurl : Url.isUrl source = .ok false)
    (hread : w.read (Path.ofText source) = .ok bytes) (hdecode : decode? bytes = some sdl)
    (timeout : τ) :
    text w source timeout = (do
      (if isSchemaFile (Path.ofText source) then pure ⟨⟩
        else warn s!"File does not have a GraphQL extension: {(Path.ofText source).text}")
      return sdl) := by
  have hexists := World.existsAt_of_read hread
  rw [text_eq_fromFile hurl (World.isDirectory_of_read hread)]
  simp only [fromFile, asked, hexists, pure_bind, hread, hdecode]
  cases isSchemaFile (Path.ofText source) <;> simp

theorem run_schema_file (hurl : Url.isUrl source = .ok false)
    (hread : w.read (Path.ofText source) = .ok bytes) (hdecode : Text.decode? bytes = some sdl)
    (hsdl : '\r' ∉ sdl.toList) (timeout : τ) :
    (run (schema w [source] timeout)).1 = (Schema.parse sdl).mapError .schema := by
  have single : "\n".intercalate [sdl] = sdl := by simp
  simp only [run, schema, List.mapM_cons, List.mapM_nil, pure_bind, bind_assoc, single,
    text_of_file hurl hread (decode?_of_not_mem hdecode hsdl)]
  cases isSchemaFile (Path.ofText source) <;> cases Schema.parse sdl <;> rfl

end SdlPhp.Source
