import RiscvCore.Rtl.RiscvTypesPkg

/-!
# Memory access and write-back

`rtl/mem` and `rtl/wb`: the load-store unit `lsu`, `memStage` around it, and the
write-back multiplexer `wbMux` with `wbStage` around it.
-/

namespace RiscvCore.Rtl

/-! ### The load-store unit -/

/-- `bytes_enable_t`. -/
abbrev BytesEnable := BitVec 4

/-- `byte_offset`: `addr_i[OFFSET_WIDTH-1:0]`. -/
def byteOffset (addr : Data) : BitVec 2 := addr.extractLsb' 0 2

/-- `byte_val`: `OFFSET_WIDTH'(8)`, eight in two bits. -/
def byteVal : BitVec 2 := BitVec.ofNat 2 8

/-- The outputs of `lsu`. -/
structure LsuOut where
  memWdata : Data
  memBe : BytesEnable
  rdata : Data

/-- `mem_be_o`, under `mem_write_i`. -/
def lsuMemBe (op : LsuOp) (addr : Data) : BytesEnable :=
  match op with
  | .byte | .byteU => 0b0001#4 <<< (byteOffset addr).toNat
  | .half | .halfU => 0b0011#4 <<< (byteOffset addr &&& ~~~0b01#2).toNat
  | .word => 0b1111#4 <<< (byteOffset addr &&& ~~~0b11#2).toNat

/-- `mem_wdata_o`, under `mem_write_i`: the shift amounts are products in two bits. -/
def lsuMemWdata (op : LsuOp) (addr wdata : Data) : Data :=
  match op with
  | .byte | .byteU => wdata <<< (byteVal * byteOffset addr).toNat
  | .half | .halfU => wdata <<< (byteVal * (byteOffset addr &&& ~~~0b01#2)).toNat
  | .word => wdata <<< (byteVal * (byteOffset addr &&& ~~~0b11#2)).toNat

/-- `shifted_rdata`. -/
def shiftedRdata (addr memRdata : Data) : Data := memRdata >>> (byteVal * byteOffset addr).toNat

/-- `lsu_rdata_o`, from `shifted_rdata`. -/
def lsuRdata (op : LsuOp) (shifted : Data) : Data :=
  match op with
  | .byte => (shifted.extractLsb' 7 1).replicate 24 ++ shifted.extractLsb' 0 8
  | .byteU => (0#1).replicate 24 ++ shifted.extractLsb' 0 8
  | .half => (shifted.extractLsb' 15 1).replicate 16 ++ shifted.extractLsb' 0 16
  | .halfU => (0#1).replicate 16 ++ shifted.extractLsb' 0 16
  | .word => shifted

/-- `lsu`. -/
def lsu (op : LsuOp) (addr wdata memRdata : Data) (memWrite : Bool) : LsuOut where
  memWdata := if memWrite = true then lsuMemWdata op addr wdata else 0#32
  memBe := if memWrite = true then lsuMemBe op addr else 0#4
  rdata := lsuRdata op (shiftedRdata addr memRdata)

/-! ### The memory stage -/

/-- The outputs of `mem_stage`. -/
structure MemOut where
  memWdata : Data
  memAddr : Data
  memBe : BytesEnable
  memWe : Bool
  wbAluResult : Data
  wbLsuData : Data
  wbPcPlus4 : Data
  wbSel : WbSel
  regWriteEn : Bool

/-- `mem_stage`. -/
def memStage (lsuOp : LsuOp) (wbSel : WbSel) (memWrite regWriteEn : Bool)
    (aluResult rs2Data pcPlus4 memRdata : Data) : MemOut where
  memWdata := (lsu lsuOp aluResult rs2Data memRdata memWrite).memWdata
  memAddr := aluResult
  memBe := (lsu lsuOp aluResult rs2Data memRdata memWrite).memBe
  memWe := memWrite
  wbAluResult := aluResult
  wbLsuData := (lsu lsuOp aluResult rs2Data memRdata memWrite).rdata
  wbPcPlus4 := pcPlus4
  wbSel := wbSel
  regWriteEn := regWriteEn

/-! ### The write-back stage -/

/-- `wb_mux`. -/
def wbMux (aluResult lsuData pcPlus4 : Data) (wbSel : WbSel) : Data :=
  match wbSel with
  | .alu => aluResult
  | .mem => lsuData
  | .pc4 => pcPlus4

/-- The outputs of `wb_stage`. -/
structure WbOut where
  wbData : Data
  regWriteEn : Bool

/-- `wb_stage`. -/
def wbStage (aluResult lsuData pcPlus4 : Data) (wbSel : WbSel) (regWriteEn : Bool) : WbOut where
  wbData := wbMux aluResult lsuData pcPlus4 wbSel
  regWriteEn := regWriteEn

end RiscvCore.Rtl
