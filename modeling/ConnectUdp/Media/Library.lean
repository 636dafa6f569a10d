import Mathlib.Logic.Function.Basic
import ConnectUdp.Ownership

/-!
# Set-up and tear-down in `mediaLibrary.cpp`

The ten pointers that the two pipelines keep in globals, the shared `handle` of the codec library,
and the functions that create, use and destroy what they point to.  What an external call answers
is an argument; using or destroying anything but a live object ends the process.
-/

namespace ConnectUdp.Media

open Ownership

inductive Site
  | videoEncoder
  | sendVideoSess
  | sendVideoStrm
  | audioEncoder
  | sendAudioSess
  | sendAudioStrm
  | videoDecoder
  | receiveVideoSess
  | receiveVideoStrm
  | audioDecoder
  | receiveAudioSess
  | receiveAudioStrm
  deriving DecidableEq, Repr

inductive Fault
  | null (x : Site)
  | destroyed (x : Site)
  | nullHandle
  | closedHandle
  deriving DecidableEq, Repr

structure Globals where
  slot : Site → Slot
  handle : Option Nat
  inputVideoFormat : Int
  -- The dynamic loader's record of the library at `libraryPath`.
  loader : Shared
  -- The texts passed to `debugCallback`.
  log : List String

namespace Globals

def pointer (m : Globals) (x : Site) : Option Nat :=
  (m.slot x).pointer

def debug (m : Globals) (text : String) : Globals :=
  { m with log := m.log ++ [text] }

-- Dereference the pointer.
def use (m : Globals) (x : Site) : Except Fault Unit :=
  if (m.slot x).Valid then .ok ()
  else .error (if m.pointer x = none then .null x else .destroyed x)

-- Assign the result of a creation call that returns a pointer.
def assign (m : Globals) (x : Site) (found : Bool) : Globals :=
  { m with slot := Function.update m.slot x ((m.slot x).assign found) }

-- Pass the pointer to its destroy function.
def destroy (m : Globals) (x : Site) : Except Fault Globals :=
  if (m.slot x).Valid then .ok { m with slot := Function.update m.slot x (m.slot x).destroy }
  else .error (if m.pointer x = none then .null x else .destroyed x)

-- `handle = dlopen(libraryPath.c_str(), RTLD_LAZY)`.
def dlopen (m : Globals) (found : Bool) : Globals :=
  if found then { m with handle := some m.loader.acquire.generation, loader := m.loader.acquire }
  else { m with handle := none }

def handleFault (m : Globals) : Fault :=
  if m.handle = none then .nullHandle else .closedHandle

def dlsym (m : Globals) : Except Fault Unit :=
  if m.loader.Valid m.handle then .ok () else .error m.handleFault

def dlclose (m : Globals) : Except Fault Globals :=
  if m.loader.Valid m.handle then .ok { m with loader := m.loader.release }
  else .error m.handleFault

end Globals

/-! ## External calls -/

/-- `createEncoder(&videoEncoder)` and `createDecoder(&videoDecoder)`: a new object, a null
pointer, or a failure that leaves the pointer as it was. -/
inductive Create
  | created
  | null
  | failed
  deriving DecidableEq, Repr

def Globals.create (m : Globals) (x : Site) : Create → Globals
  | .created => m.assign x true
  | .null => m.assign x false
  | .failed => m

-- The answers in `initEncodeVideoData` and `initDecodeVideoData`.
structure VideoCalls where
  dlopen : Bool
  create : Create
  initRet : Int
  createSession : Bool
  createStream : Bool
  deriving DecidableEq, Repr

-- The answers in `initEncodeAudioData` and `initDecodeAudioData`.
structure AudioCalls where
  create : Bool
  createSession : Bool
  createStream : Bool
  deriving DecidableEq, Repr

/-! ## The sender -/

def initEncodeVideoData (m : Globals) (videoFormatNum : Int) (calls : VideoCalls) :
    Except Fault (Int × Globals) := do
  let m := m.dlopen calls.dlopen
  if m.handle = none then
    return (-1, m.debug "DLOpenエラー")
  m.dlsym
  let m := m.create .videoEncoder calls.create
  if calls.create = .failed ∨ m.pointer .videoEncoder = none then
    return (-1, m.debug "ビデオエンコーダー作成エラー")
  let m := { m with inputVideoFormat := videoFormatNum }
  m.use .videoEncoder
  if calls.initRet ≠ 0 then
    return (-1, m.debug "ビデオエンコーダー作成エラー")
  m.use .videoEncoder
  let m := m.assign .sendVideoSess calls.createSession
  m.use .sendVideoSess
  let m := m.assign .sendVideoStrm calls.createStream
  m.use .sendVideoStrm
  -- the test comes after both pointers have been used
  if m.pointer .sendVideoSess = none ∨ m.pointer .sendVideoStrm = none then
    return (-1, m.debug "ビデオエンコーダー作成エラー2")
  return (0, m)

-- `opus_encoder_create` returns null when it reports an error.
def initEncodeAudioData (m : Globals) (calls : AudioCalls) : Except Fault Globals := do
  let m := m.assign .audioEncoder calls.create
  if ¬ calls.create then
    return m.debug "Opusエンコーダの初期化に失敗"
  let m := m.assign .sendAudioSess calls.createSession
  m.use .sendAudioSess
  let m := m.assign .sendAudioStrm calls.createStream
  m.use .sendAudioStrm
  return m

-- What the walk over the encoded NALs finds at one of them.
inductive Nal
  | nullBuffer
  | tooLarge
  | pushFrame (ret : Int)
  deriving DecidableEq, Repr

def sendNals (m : Globals) : List Nal → Except Fault Globals
  | [] => return m
  | .nullBuffer :: _ => return m.debug "エンコードされたデータがnullptrです"
  | .tooLarge :: _ => return m.debug "NALユニットのサイズがバッファサイズを超えています"
  | .pushFrame ret :: nals => do
    m.use .sendVideoStrm
    if ret ≠ 0 then
      return m.debug "RTPフレームの送信に失敗しました"
    sendNals m nals

-- The objects that `encodeVideoData` uses; `ret` is what `EncodeFrame` returns.
def encodeVideoData (m : Globals) (ret : Int) (nals : List Nal) : Except Fault Globals := do
  m.use .videoEncoder
  if ret ≠ 0 then
    return m.debug "エンコードに失敗"
  sendNals m nals

def encodeAudioData (m : Globals) (numBytes : Int) : Except Fault Globals := do
  m.use .audioEncoder
  if numBytes < 0 then
    return m.debug "Opusエンコードに失敗"
  m.use .sendAudioStrm
  return m

def destroyEncoder (m : Globals) : Except Fault Globals := do
  m.use .videoEncoder
  m.dlsym
  let m ← m.destroy .videoEncoder
  let m ← m.dlclose
  m.use .sendVideoSess
  let m ← m.destroy .sendVideoStrm
  let m ← m.destroy .sendVideoSess
  let m ← m.destroy .audioEncoder
  m.use .sendAudioSess
  let m ← m.destroy .sendAudioStrm
  m.destroy .sendAudioSess

/-! ## The receiver -/

def initDecodeVideoData (m : Globals) (calls : VideoCalls) : Except Fault Globals := do
  let m := m.dlopen calls.dlopen
  if m.handle = none then
    return m.debug "DLOpenエラー"
  m.dlsym
  let m := m.create .videoDecoder calls.create
  if calls.create = .failed ∨ m.pointer .videoDecoder = none then
    return m.debug "デコーダの作成に失敗: video"
  m.use .videoDecoder
  if calls.initRet ≠ 0 then
    return m.debug "デコーダの初期化に失敗: video"
  let m := m.assign .receiveVideoSess calls.createSession
  m.use .receiveVideoSess
  let m := m.assign .receiveVideoStrm calls.createStream
  return m.debug "デコーダの設定成功: video"

def initDecodeAudioData (m : Globals) (calls : AudioCalls) : Except Fault Globals := do
  let m := m.assign .audioDecoder calls.create
  if ¬ calls.create then
    return m.debug "opusエンコーダの作成に失敗: audio"
  let m := m.assign .receiveAudioSess calls.createSession
  m.use .receiveAudioSess
  return m.assign .receiveAudioStrm calls.createStream

/-- The objects that `receiveAndDecodeVideoData` uses: `frame` tells whether `pull_frame` returned
one, `decoded` whether a picture came out of it. -/
def receiveAndDecodeVideoData (m : Globals) (frame decoded : Bool) : Except Fault Globals := do
  m.use .receiveVideoStrm
  if ¬ frame then
    return m.debug "RTPフレームの受信に失敗しました: video"
  m.use .videoDecoder
  if decoded then
    return m
  return m.debug "デコードに失敗 or 1000msが経過: video"

def receiveAndDecodeAudioData (m : Globals) (frame : Bool) (frameSize : Int) :
    Except Fault Globals := do
  m.use .receiveAudioStrm
  if ¬ frame then
    return m.debug "RTPフレームの受信に失敗しました: audio"
  m.use .audioDecoder
  if 0 ≤ frameSize then
    return m
  return m.debug "デコードに失敗 or 1000msが経過: audio"

-- `if (strm) sess->destroy_stream(strm);`.
def destroyStream (m : Globals) (sess strm : Site) : Except Fault Globals :=
  if m.pointer strm ≠ none then do
    m.use sess
    m.destroy strm
  else return m

-- `if (sess) ctx.destroy_session(sess);`.
def destroySession (m : Globals) (sess : Site) : Except Fault Globals :=
  if m.pointer sess ≠ none then m.destroy sess else return m

def destroyDecoder (m : Globals) : Except Fault Globals := do
  let m ← destroyStream m .receiveVideoSess .receiveVideoStrm
  let m ← destroySession m .receiveVideoSess
  let m ← destroyStream m .receiveAudioSess .receiveAudioStrm
  let m ← destroySession m .receiveAudioSess
  m.use .videoDecoder
  m.dlsym
  let m ← m.destroy .videoDecoder
  let m ← m.dlclose
  let m ← m.destroy .audioDecoder
  return m.debug "セッションとストリームの解放"

end ConnectUdp.Media
