import Phrasebook.Catalog.Overview
import Phrasebook.Export.Outline
import Phrasebook.Import.Key
import Phrasebook.Settings.Basic

namespace Phrasebook

structure ExportOptions where
  localeCode : LocaleCode
  localeFilter : List String
  contextSeparator : String
deriving DecidableEq, Repr

namespace ExportOptions

def standard : ExportOptions := ⟨.iso1, [], "_"⟩

def ofSettings (settings : ExportSettings) : ExportOptions :=
  { standard with localeCode := settings.localeCode, localeFilter := settings.localeFilter }

def selects (options : ExportOptions) (locale : Locale) (code : String) : Bool :=
  options.localeFilter.isEmpty ||
    options.localeFilter.any fun entry => entry == code || locale.isNamed entry

end ExportOptions

namespace Export

def texts (phrase : Phrase) (rendering : Rendering) (separator : String) :
    List (String × String) :=
  (phrase.key, rendering.text) :: rendering.contexts.entries.map fun entry =>
    (Key.joinContext phrase.key entry.1 separator, entry.2)

def ofCategory (category : Category) (localeId separator : String) : Outline :=
  let pairs := category.phrases.values.flatMap fun phrase =>
    ((phrase.renderings.get? localeId).map fun rendering =>
      texts phrase rendering separator).getD []
  pairs.foldl (fun outline pair => outline.graft [pair.1] (Trie.leaf pair.2)) Trie.blank

def ofShare (share : LocaleShare) (localeId separator : String) : Outline :=
  share.categories.foldl
    (fun outline category =>
      outline.graft category.path (ofCategory category localeId separator)) Trie.blank

def addShare (options : ExportOptions) (outline : Outline) (entry : String × LocaleShare) :
    Except OutlineFault Outline :=
  let (localeId, share) := entry
  let code := share.locale.code options.localeCode
  if code = "" then .error (.emptyLocaleCode localeId)
  else if options.selects share.locale code then
    .ok (outline.graft [code] (ofShare share localeId options.contextSeparator))
  else .ok outline

end Export

def Overview.export (overview : Overview) (options : ExportOptions) :
    Except OutlineFault Outline :=
  overview.shares.entries.foldlM (Export.addShare options) Trie.blank

end Phrasebook
