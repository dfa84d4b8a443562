/-
Why a module fails.

A failure is a cause inside a chain of what was being done, the outermost activity first. Where the
name of an archive refers to a field that does not exist, the activity is the rendering of that
name, and the cause is `template build:zip: unknown field "Nope"`. The chain is data, so that two
failures can be compared by what happened and not by how it is told. Only `Failure.messages` puts it
into words, and each activity and each cause has its wording here and nowhere else.

Most causes are the errors of one part of the program, which have wordings of their own where they
are defined: of files, templates, selections, patterns, names of entries and addresses. A failed
build keeps the name of its target and is told in one message, since of several builds it has to be
clear which one failed.
-/
import ReleasePipeline.Archive.EntryName
import ReleasePipeline.Catalog.Rectangular
import ReleasePipeline.Files.Pattern
import ReleasePipeline.Host.Command
import ReleasePipeline.Template
import ReleasePipeline.Url.Reading

set_option autoImplicit false

namespace ReleasePipeline

/-! ## Causes -/

/-- The cause of a failure. -/
inductive Cause where
  | io (error : IoError)
  /-- The data of a file cannot be found. -/
  | metadata (error : IoError) (path : Path)
  | template (error : TemplateError)
  | selection (error : SelectionError)
  | pattern (error : PatternError)
  | entryName (error : Archive.EntryNameError)
  /-- A program ended badly. -/
  | exited (program : String) (status : ExitStatus)
  /-- A program ended badly and said why. -/
  | exitedSaying (program : String) (status : ExitStatus) (text : String)
  | emptyVersion
  | notBoolean (name value : String)
  | noChangelogSection (version : String)
  | noCopyTarget
  | noRepository
  | noToken (name file : String)
  | noReleaseNotes
  | severalReleaseNotes
  /-- A text that is no address. -/
  | badUrl (fault : UrlFault)
  /-- An address that cannot be asked. -/
  | unaskedScheme (url : String)
  /-- An address that a request has no place for. -/
  | unfitUrl (url : String)
  /-- A text that cannot be sent as a header. -/
  | badHeader
  | unreachable (url : String)
  | badStatus (status : Nat) (body : String)
  | badBody
  | notYaml
  /-- Messages of a module from elsewhere, the outermost first. -/
  | reported (messages : List String)
  deriving DecidableEq

namespace Cause

/-- The wording of the cause, as one message or several from the outermost on. -/
def messages : Cause → List String
  | .io e => [e.message]
  | .metadata e path => [e.message ++ " when getting metadata for " ++ path.text]
  | .template e => [e.message]
  | .selection e => [e.message]
  | .pattern e => [e.message]
  | .entryName e => [e.message]
  | .exited program status => [Command.shownProgram program ++ " exited with " ++ status.message]
  | .exitedSaying program status text =>
    [Command.shownProgram program ++ " exited with " ++ status.message ++ ": " ++ text]
  | .emptyVersion => ["git reported an empty version"]
  | .notBoolean name value =>
    ["parsing " ++ name ++ " as bool: invalid value " ++ Text.quoted value]
  | .noChangelogSection version => ["cannot detect changelog segment for " ++ version]
  | .noCopyTarget => ["scp target is not set"]
  | .noRepository => ["release repository is not set: owner and name are required"]
  | .noToken name file =>
    ["no release token found: set " ++ name ++ " or write it to " ++ file]
  | .noReleaseNotes => ["release notes not found"]
  | .severalReleaseNotes => ["multiple release notes found"]
  | .badUrl fault => ["builder error", fault.message]
  | .unaskedScheme url => ["builder error for url (" ++ url ++ ")", "URL scheme is not allowed"]
  | .unfitUrl url => ["builder error for url (" ++ url ++ ")", "Parsed Url is not a valid Uri"]
  | .badHeader => ["builder error", "failed to parse header value"]
  | .unreachable url => ["error sending request for url (" ++ url ++ ")"]
  | .badStatus status body => ["GitHub API error: HTTP " ++ toString status ++ ": " ++ body]
  | .badBody => ["error decoding response body"]
  | .notYaml => ["cannot parse pipeline definition"]
  | .reported messages => messages

end Cause

/-! ## Activities -/

/-- What was being done when a failure came. -/
inductive Activity where
  | creatingDirectory (path : Path)
  | creatingTargetDirectory (path : Path)
  | starting (program : String)
  | detecting (what : String)
  | rendering (text : String)
  | renderingFlags
  | renderingLocation
  | renderingOutput
  | runningHook (hook : String)
  | compressing (program : String)
  | readingPattern (pattern : String)
  | openingToHash (path : Path)
  | readingToHash (path : Path)
  | writingChecksums (path : Path)
  | creatingArchive (path : Path)
  | creatingEntryDirectory (name : String)
  | openingSource (path : Path)
  | copyingToArchive (path : Path) (entry : String)
  | writingArchive (path : Path)
  | readingChangelog (path : String)
  | writingChangelog (path : Path)
  | readingReleaseNotes (path : Path)
  | requesting (method url : String)
  | readingAnswer
  | creatingRelease (tag : String)
  | updatingRelease (tag : String)
  | uploading (filename owner repository : String) (release : Nat)
  | readingPipeline (path : Path)
  | parsingPipeline (path : Path)
  | creatingMetricsDirectory (path : Path)
  | creatingMetricsFile (path : Path)
  deriving DecidableEq

namespace Activity

/-- The wording of the activity. -/
def message : Activity → String
  | .creatingDirectory p => "Failed to create directory: " ++ p.text
  | .creatingTargetDirectory p => "Failed to create target directory: " ++ p.text
  | .starting program => "Failed to start " ++ Command.shownProgram program
  | .detecting what => "cannot detect " ++ what ++ " from git"
  | .rendering text => "rendering " ++ Text.quoted text
  | .renderingFlags => "cannot render ldflags"
  | .renderingLocation => "cannot render location"
  | .renderingOutput => "cannot render output"
  | .runningHook hook => "hook failed: " ++ hook
  | .compressing program => "compressing with " ++ program
  | .readingPattern pattern => "invalid glob pattern " ++ Text.quoted pattern
  | .openingToHash p => "Failed to open file for hashing: " ++ p.text
  | .readingToHash p => "Failed to read " ++ p.text ++ " for hashing"
  | .writingChecksums p => "Failed to write checksum file: " ++ p.text
  | .creatingArchive p => "cannot create archive file " ++ p.text
  | .creatingEntryDirectory name => "cannot create directory " ++ name
  | .openingSource p => "can't open file " ++ p.text
  | .copyingToArchive p entry => "copying " ++ p.text ++ " to archive " ++ entry
  | .writingArchive p => "writing " ++ p.text
  | .readingChangelog p => "reading original CHANGELOG " ++ p
  | .writingChangelog p => "writing sliced CHANGELOG " ++ p.text
  | .readingReleaseNotes p => "reading release notes " ++ p.text
  | .requesting method url => method ++ " " ++ url
  | .readingAnswer => "Failed to parse GitHub response"
  | .creatingRelease tag => "creating release " ++ tag
  | .updatingRelease tag => "updating release " ++ tag
  | .uploading filename owner repository release =>
    "uploading file " ++ filename ++ " to release " ++ owner ++ "/" ++ repository ++ " #"
      ++ toString release
  | .readingPipeline p => "Failed to read pipeline file: " ++ p.text
  | .parsingPipeline p => "Failed to parse pipeline file: " ++ p.text
  | .creatingMetricsDirectory p => "Failed to create metrics directory: " ++ p.text
  | .creatingMetricsFile p => "Failed to create metrics file: " ++ p.text

end Activity

/-! ## Failures -/

/-- A cause and what was being done. -/
inductive Failure where
  | because (cause : Cause)
  | during (activity : Activity) (failure : Failure)
  /-- The build for a target failed; the whole chain of the reason is one message. -/
  | building (target : Target) (failure : Failure)
  deriving DecidableEq

namespace Failure

/-- The messages of the chain, the outermost first. -/
def messages : Failure → List String
  | .because cause => cause.messages
  | .during activity failure => activity.message :: failure.messages
  | .building target failure =>
    ["building " ++ target.key ++ ": " ++ ": ".intercalate failure.messages]

/-- The whole chain as one message. -/
def message (f : Failure) : String := ": ".intercalate f.messages

end Failure

end ReleasePipeline
