import ImportWeb.Proofs.Path.Tidy
import ImportWeb.Proofs.Web.Reference

/-!
Which files a run makes the web of. Nodes are told by keys, and a key is a text: it has replacement
characters for whatever in a path is none. So files may share a key, and then all but the first of
them have no node, and their imports are drawn as imports by the first one. The web is that of its
files just when the keys tell these apart, which they do when all paths are texts.
-/

namespace ImportWeb

namespace Web

variable {P : Type} [FilePath P] [DecidableEq P] {finder : Finder P} {registry : Registry}
  {includeExternal : Bool} {root : P} {files : List (Source P)}

/-- The keys of texts tell files apart, so with these a run makes the web of its files, each of
which is found by its key from the root. -/
theorem isWebOf_ofFiles (disk : Disk) (registry : Registry) (includeExternal : Bool) {root : Path}
    {files : List Source} (h : Source.Proper root files) :
    IsWebOf disk registry includeExternal root files
        (ofFiles disk registry includeExternal root files).graph ∧
      ∀ f ∈ files, ∃ key, Key.ofPath? root f.path = some key ∧ root.push key.toList = f.path :=
  ⟨isWebOf_of_toldByKeys includeExternal h.keyed (h.toldByKeys disk registry),
    fun _ hf => h.exists_key hf⟩

end Web

end ImportWeb
