import DfuSeBootloader.Usb.Lemmas.Keeps
import DfuSeBootloader.Usb.Task

/-!
# What the standard requests leave alone

A standard request changes the endpoint and the variables of the USB library.
-/

namespace DfuSeBootloader.Usb
open Program Iap

variable {ρ τ : Type}

/-- A view that the library cannot change. -/
structure LibraryView (v : Device ρ → τ) : Prop extends DriverView v where
  deviceState : ∀ d s, v { d with USB_DeviceState := s } = v d
  configuration : ∀ d n, v { d with USB_Device_ConfigurationNumber := n } = v d
  wakeup : ∀ d b, v { d with USB_Device_RemoteWakeupEnabled := b } = v d

/-- The operations of the library. -/
structure LibraryOps (ok bad : Op → Prop) : Prop extends DriverOps ok where
  inReady : ok .Endpoint_IsINReady
  critical : ok .OS_CRITICAL
  critical_bad : bad .OS_CRITICAL
  store_bad : ∀ i, 512 ≤ i → bad (.store_usb_data_buffer i)

/-- A request to the DFU interface is of no type that the test for it does not accept. -/
theorem bmRequestType_ne {h : USB_Request_Header_t} (hc : h.isClassInterface = true) {b : UInt8}
    (hb : (b &&& (CONTROL_REQTYPE_TYPE ||| CONTROL_REQTYPE_RECIPIENT) ==
      (REQTYPE_CLASS ||| REQREC_INTERFACE)) = false) : h.bmRequestType ≠ b := by
  rintro rfl
  exact Bool.false_ne_true (hb.symm.trans hc)

/-- The `switch` of the library does nothing for a request to the DFU interface. -/
theorem standardRequest_of_class (P : Platform ρ) {h : USB_Request_Header_t}
    (hc : h.isClassInterface = true) : standardRequest P h = pure () := by
  have h00 := bmRequestType_ne hc (b := REQDIR_HOSTTODEVICE ||| REQTYPE_STANDARD ||| REQREC_DEVICE)
    (by decide)
  have h80 := bmRequestType_ne hc (b := REQDIR_DEVICETOHOST ||| REQTYPE_STANDARD ||| REQREC_DEVICE)
    (by decide)
  have h02 := bmRequestType_ne hc (b := REQDIR_HOSTTODEVICE ||| REQTYPE_STANDARD ||| REQREC_ENDPOINT)
    (by decide)
  have h82 := bmRequestType_ne hc (b := REQDIR_DEVICETOHOST ||| REQTYPE_STANDARD ||| REQREC_ENDPOINT)
    (by decide)
  have h81 := bmRequestType_ne hc (b := REQDIR_DEVICETOHOST ||| REQTYPE_STANDARD ||| REQREC_INTERFACE)
    (by decide)
  simp only [standardRequest, h00, h80, h02, h82, h81, or_self, if_false, ite_self]

/-! ## Requests that only read -/

section Reads

variable {v : Device ρ → τ} {ok bad : Op → Prop} (hv : DriverView v) (ho : LibraryOps ok bad)
include hv ho

theorem USB_Device_GetConfiguration.reads : USB_Device_GetConfiguration.Keeps ok bad v :=
  .bind (Endpoint_ClearSETUP.keeps hv ho.toDriverOps _) fun _ =>
    .bind (by simp [ho.access]) fun _ =>
    .bind (Endpoint_Write_8.keeps hv.endpoint ho.toDriverOps ho.store_bad _) fun _ =>
    .bind (Endpoint_ClearIN.keeps hv.endpoint ho.toDriverOps) fun _ =>
      Endpoint_ClearStatusStage.keeps hv ho.toDriverOps

theorem USB_Device_GetDescriptor.reads (P : Platform ρ) :
    (USB_Device_GetDescriptor P).Keeps ok bad v :=
  .bind (by simp [ho.access]) fun _ => .ite
    (fun _ => .bind (Endpoint_ClearSETUP.keeps hv ho.toDriverOps _) fun _ =>
      .bind (.bind (by simp [ho.access]) fun _ =>
        .bind (Endpoint_Write_Stream_LE.keeps hv.endpoint ho.toDriverOps ho.store_bad _ _)
          fun _ => Endpoint_ClearIN.keeps hv.endpoint ho.toDriverOps) fun _ =>
        Endpoint_ClearOUT.keeps hv.endpoint ho.toDriverOps)
    (fun _ => .pure _)

theorem USB_Device_GetStatus.reads (P : Platform ρ) : (USB_Device_GetStatus P).Keeps ok bad v := by
  refine .bind (by simp [ho.access]) fun answer => ?_
  cases answer with
  | none => exact .pure _
  | some CurrentStatus =>
      exact .bind (Endpoint_ClearSETUP.keeps hv ho.toDriverOps _) fun _ =>
        .bind (Endpoint_Write_16_LE.keeps hv.endpoint ho.toDriverOps ho.store_bad _) fun _ =>
        .bind (Endpoint_ClearIN.keeps hv.endpoint ho.toDriverOps) fun _ =>
          Endpoint_ClearStatusStage.keeps hv ho.toDriverOps

end Reads

/-! ## The other requests -/

variable {v : Device ρ → τ} {ok bad : Op → Prop} (hv : LibraryView v) (ho : LibraryOps ok bad)
include hv ho

theorem USB_Device_SetAddress.keeps : USB_Device_SetAddress.Keeps ok bad v :=
  .bind (by simp [ho.access]) fun _ => .bind
    (.critical (.bind (Endpoint_ClearSETUP.keeps hv.toDriverView ho.toDriverOps _) fun _ =>
      Endpoint_ClearStatusStage.keeps hv.toDriverView ho.toDriverOps) ho.critical ho.critical_bad)
    fun _ => .bind (by simp [ho.inReady]) fun _ => by simp [ho.access, hv.deviceState]

theorem USB_Device_SetConfiguration.keeps : USB_Device_SetConfiguration.Keeps ok bad v :=
  .bind (by simp [ho.access]) fun _ => .ite
    (fun _ => .bind (Endpoint_ClearSETUP.keeps hv.toDriverView ho.toDriverOps _) fun _ =>
      .bind (by simp [ho.access, hv.configuration]) fun _ =>
      .bind (Endpoint_ClearStatusStage.keeps hv.toDriverView ho.toDriverOps) fun _ => by
        simp [ho.access, hv.deviceState])
    (fun _ => .pure _)

theorem USB_Device_GetConfiguration.keeps : USB_Device_GetConfiguration.Keeps ok bad v :=
  USB_Device_GetConfiguration.reads hv.toDriverView ho

theorem USB_Device_GetDescriptor.keeps (P : Platform ρ) :
    (USB_Device_GetDescriptor P).Keeps ok bad v :=
  USB_Device_GetDescriptor.reads hv.toDriverView ho P

theorem USB_Device_GetStatus.keeps (P : Platform ρ) : (USB_Device_GetStatus P).Keeps ok bad v :=
  USB_Device_GetStatus.reads hv.toDriverView ho P

theorem USB_Device_ClearSetFeature.keeps : USB_Device_ClearSetFeature.Keeps ok bad v := by
  refine .bind (.bind (by simp [ho.access]) fun _ => .ite
    (fun _ => .ite (fun _ => .bind (by simp [ho.access, hv.wakeup]) fun _ => .pure _)
      (fun _ => .pure _))
    (fun _ => .ite (fun _ => .pure _) (fun _ => .pure _))) fun _ => .ite
    (fun _ => .bind (Endpoint_ClearSETUP.keeps hv.toDriverView ho.toDriverOps _) fun _ =>
      Endpoint_ClearStatusStage.keeps hv.toDriverView ho.toDriverOps)
    (fun _ => .pure _)

theorem standardRequest.keeps (P : Platform ρ) (h : USB_Request_Header_t) :
    (standardRequest P h).Keeps ok bad v :=
  .ite (fun _ => .ite (fun _ => USB_Device_GetStatus.keeps hv ho P) (fun _ => .pure _)) fun _ =>
  .ite (fun _ => .ite (fun _ => USB_Device_ClearSetFeature.keeps hv ho) (fun _ => .pure _)) fun _ =>
  .ite (fun _ => .ite (fun _ => USB_Device_SetAddress.keeps hv ho) (fun _ => .pure _)) fun _ =>
  .ite (fun _ => .ite (fun _ => USB_Device_GetDescriptor.keeps hv ho P) (fun _ => .pure _)) fun _ =>
  .ite (fun _ => .ite (fun _ => USB_Device_GetConfiguration.keeps hv ho) (fun _ => .pure _)) fun _ =>
  .ite (fun _ => .ite (fun _ => USB_Device_SetConfiguration.keeps hv ho) (fun _ => .pure _)) fun _ =>
    .pure _

theorem standardRequests.keeps (P : Platform ρ) : (standardRequests P).Keeps ok bad v :=
  .bind (Endpoint_IsSETUPReceived.keeps ho.toDriverOps) fun _ => .ite
    (fun _ => .bind (by simp [ho.access]) fun _ => standardRequest.keeps hv ho P _)
    (fun _ => .pure _)

omit hv in
theorem stallUnhandled.keeps (hd : DriverView v) : stallUnhandled.Keeps ok bad v :=
  .bind (Endpoint_IsSETUPReceived.keeps ho.toDriverOps) fun _ => .ite
    (fun _ => .bind (Endpoint_ClearSETUP.keeps hd ho.toDriverOps _) fun _ =>
      Endpoint_StallTransaction.keeps hd ho.toDriverOps)
    (fun _ => .pure _)

end DfuSeBootloader.Usb
