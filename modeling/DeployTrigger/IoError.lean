/-! Failures of files and streams: what kind they are of and what they say. -/
namespace DeployTrigger

inductive IoKind where
  | notFound | permissionDenied | connectionRefused | connectionReset | hostUnreachable
  | networkUnreachable | connectionAborted | notConnected | addrInUse | addrNotAvailable
  | networkDown | brokenPipe | alreadyExists | wouldBlock | notADirectory | isADirectory
  | directoryNotEmpty | readOnlyFilesystem | staleNetworkFileHandle | invalidInput | invalidData
  | timedOut | writeZero | storageFull | notSeekable | quotaExceeded | fileTooLarge | resourceBusy
  | executableFileBusy | deadlock | crossesDevices | tooManyLinks | invalidFilename
  | argumentListTooLong | interrupted | unsupported | unexpectedEof | outOfMemory | other
  deriving DecidableEq, Repr

structure IoError where
  kind : IoKind
  message : String
  /-- A further explanation of the failure, where there is one. -/
  cause : Option String := none
  deriving DecidableEq, Repr

namespace IoError

/-- A failure that the operating system numbers. -/
def system (kind : IoKind) (text : String) (code : Nat) : IoError :=
  ⟨kind, text ++ " (os error " ++ toString code ++ ")", none⟩

def notFound : IoError := system .notFound "No such file or directory" 2

def isADirectory : IoError := system .isADirectory "Is a directory" 21

/-- A path with a zero byte in it. -/
def zeroByte : IoError := ⟨.invalidInput, "file name contained an unexpected NUL byte", none⟩

/-- A file read as text that holds something else. -/
def notText : IoError := ⟨.invalidData, "stream did not contain valid UTF-8", none⟩

/-- A stream that takes no more bytes. -/
def writeZero : IoError := ⟨.writeZero, "failed to write whole buffer", none⟩

end IoError
end DeployTrigger
